import RecordCodec.Proofs.Expansion.Progress
import RecordCodec.Proofs.Leaf.Rejection

namespace RecordCodec.Expansion

/-- What becomes of an action that takes `size` bytes of a buffer unless it rejects a value. -/
inductive Settled (size : Nat) (data : Bytes) : EStateM.Result Error Bytes Nat → Prop
  | taken {after : Bytes} : after.length = data.length → Settled size data (.ok size after)
  | rejected {e : Error} {after : Bytes} : e.IsRejection → Settled size data (.error e after)

/-- The error of the part that belongs to the place, if that is an integer without room in it. -/
def Place.overflow? (place : Place) (data : Bytes) (s : Source) : Option Error :=
  (s.part? data place.path).bind (place.leaf.overflow? data)

theorem Place.causeKind_of_overflow? {place : Place} {data : Bytes} {s : Source} {wide : Error}
    (h : place.overflow? data s = some wide) : wide.causeKind = .widthOverflow := by
  obtain ⟨t, -, hwide⟩ := Option.bind_eq_some_iff.1 h
  exact Leaf.causeKind_of_overflow? hwide

def rejection (order : ByteOrder) : Blame := fun _ l options data part e _ ↦
  part.bind (l.encoding? order options data) = none ∧ e.Reports (part.bind (l.overflow? data))

theorem covers_rejection (order : ByteOrder) : (rejection order).Covers where
  steady {_ l options _ _ part _ _} hlength htaken h := by
    cases part with
    | none => exact h
    | some t =>
      refine ⟨?_, ?_⟩
      · rw [← h.1]
        exact Leaf.encoding?_of_length_eq (htaken t rfl) hlength.symm l order options
      · rw [Option.bind_some, ← Leaf.overflow?_of_length_eq (htaken t rfl) hlength l]
        exact h.2
  absent he := ⟨rfl, he⟩

theorem explains_rejection (order : ByteOrder) : (rejection order).Explains order :=
  fun ha hfit hnone _ _ _ hrun ↦ ⟨hnone, Leaf.write_reports ha hfit hrun⟩

def Place.causeKind (place : Place) (data : Bytes) (s : Source) : ErrorKind :=
  if (place.overflow? data s).isSome then .widthOverflow else .encode

theorem causeKind_of_blame {order : ByteOrder} {data left : Bytes} {s : Source} {place : Place}
    {e : Error} (h : (rejection order).At data s place e left) :
    e.causeKind = place.causeKind data s := by
  have hreports : e.Reports (place.overflow? data s) := h.2
  rw [Place.causeKind]
  cases hwide : place.overflow? data s with
  | none =>
    rw [hwide] at hreports
    exact hreports
  | some wide =>
    rw [hwide] at hreports
    cases hreports
    exact Place.causeKind_of_overflow? hwide

theorem write_settled (order : ByteOrder) (x : Expansion) (hsound : x.Sound) (data : Bytes)
    (s : Source) (start : Nat) (hfit : start + x.size ≤ data.length) :
    Settled x.size data ((x.write order s start).run data) := by
  have h := write_progress (covers_rejection order) (explains_rejection order) x hsound data s start
    hfit
  generalize (x.write order s start).run data = result at h ⊢
  cases h with
  | completed hall =>
    have hlength := x.packed_places.length_flatten (fun _ _ ↦ Place.length_encoding?) hall
    rw [Nat.zero_add] at hlength
    rw [hlength]
    exact .taken (Window.length_set (by omega))
  | halted _ _ hblame =>
    refine .rejected ?_
    rw [Error.IsRejection, causeKind_of_blame hblame, Place.causeKind]
    split
    · exact .inr rfl
    · exact .inl rfl

end RecordCodec.Expansion
