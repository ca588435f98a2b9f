import RecordCodec.Proofs.ByteOrder
import RecordCodec.Proofs.Window

namespace RecordCodec.Leaf

variable {l : Leaf} {order : ByteOrder} {options v : Value} {data block : Bytes} {s : Source}
  {start : Nat}

/-- The bytes of a source while the memory holds `data`, if it has any. -/
def encoding? (l : Leaf) (order : ByteOrder) (options : Value) (data : Bytes) (s : Source) :
    Option Bytes :=
  match l.prepare options data s with
  | .ok s => l.encode? order (s.now data)
  | .error _ => none

theorem encoding?_congr {data' : Bytes} {s' : Source} (hnow : s.now data = s'.now data')
    (hopened : s.opened data = s'.opened data') (l : Leaf) (order : ByteOrder) (options : Value) :
    l.encoding? order options data s = l.encoding? order options data' s' := by
  cases l with
  | int | single | double => simp only [encoding?, prepare, hnow]
  | char =>
    simp only [encoding?, prepare, hnow]
    cases charByte (s'.now data') <;> rfl
  | bool =>
    simp only [encoding?, prepare, hnow]
    rfl
  | bits c =>
    simp only [encoding?, prepare, hopened]
    cases Bitfield.coerce c (s'.opened data') options <;> rfl

theorem length_encodeInt? {signed : Bool} {size : WordSize}
    (h : encodeInt? signed size order v = some block) : block.length = size.bytes := by
  simp only [encodeInt?, bind, Option.bind_eq_some_iff] at h
  obtain ⟨n, -, h⟩ := h
  split at h
  · cases h
    exact order.length_encode _ _
  · contradiction

theorem length_encode? (h : l.encode? order v = some block) : block.length = l.size := by
  cases l with
  | int signed size => exact length_encodeInt? h
  | single =>
    obtain ⟨p, -, rfl⟩ := Option.map_eq_some_iff.1 h
    exact order.length_encode _ _
  | double =>
    obtain ⟨x, -, rfl⟩ := Option.map_eq_some_iff.1 h
    exact order.length_encode _ _
  | char =>
    simp only [encode?] at h
    split at h
    · split at h
      · rename_i hlength
        cases h
        exact hlength
      · contradiction
    · contradiction
  | bool => exact length_encodeInt? h
  | bits c =>
    obtain ⟨n, -, rfl⟩ := Option.map_eq_some_iff.1 h
    exact order.length_encode _ _

theorem length_encoding? (h : l.encoding? order options data s = some block) :
    block.length = l.size := by
  simp only [encoding?] at h
  split at h
  · exact length_encode? h
  · contradiction

theorem length_residue (l : Leaf) (order : ByteOrder) (v : Value) :
    (l.residue order v).length = l.size := by
  unfold residue
  split
  · split
    · exact ByteOrder.length_encode _ _ _
    · exact List.length_replicate
  · exact List.length_replicate

theorem store_of_some (h : l.encode? order (s.now data) = some block)
    (hs : start + l.size ≤ data.length) :
    (l.store order s start).run data = .ok l.size (Window.set data start block) := by
  unfold store
  rw [EStateM.run_bind, EStateM.run_get]
  dsimp only
  rw [Window.start?_of_le hs]
  dsimp only
  rw [h]
  rfl

theorem store_eq_residue (h : l.encode? order (s.now data) = none)
    (hs : start + l.size ≤ data.length) : (l.store order s start).run data =
      .error (.unencodable (s.now (Window.set data start (l.residue order (s.now data)))) l.name)
        (Window.set data start (l.residue order (s.now data))) := by
  unfold store
  rw [EStateM.run_bind, EStateM.run_get]
  dsimp only
  rw [Window.start?_of_le hs]
  dsimp only
  rw [h]
  rfl

theorem store_of_none (h : l.encode? order (s.now data) = none)
    (hs : start + l.size ≤ data.length) :
    ∃ shown, (l.store order s start).run data = .error (.unencodable shown l.name)
      (Window.set data start (l.residue order (s.now data))) :=
  ⟨_, store_eq_residue h hs⟩

theorem write_of_prepare {prepared : Source} (h : l.prepare options data s = .ok prepared) :
    (l.write order options s start).run data = (l.store order prepared start).run data := by
  unfold write
  rw [EStateM.run_bind, EStateM.run_get]
  dsimp only
  rw [h]

theorem write_of_prepare_error {e : Error} (h : l.prepare options data s = .error e) :
    (l.write order options s start).run data = .error e data := by
  unfold write
  rw [EStateM.run_bind, EStateM.run_get]
  dsimp only
  rw [h]
  rfl

theorem write_of_some (h : l.encoding? order options data s = some block)
    (hs : start + l.size ≤ data.length) :
    (l.write order options s start).run data = .ok l.size (Window.set data start block) := by
  simp only [encoding?] at h
  split at h
  · rename_i s' hs'
    rw [write_of_prepare hs', store_of_some h hs]
  · contradiction

/-- A failure touches only the window of the leaf. -/
theorem write_of_none (h : l.encoding? order options data s = none)
    (hs : start + l.size ≤ data.length) :
    ∃ e torn, torn.length = l.size ∧
      (l.write order options s start).run data = .error e (Window.set data start torn) := by
  simp only [encoding?] at h
  split at h
  · rename_i s' hs'
    obtain ⟨shown, he⟩ := store_of_none h hs
    refine ⟨.unencodable shown l.name, _, length_residue l order (s'.now data), ?_⟩
    rw [write_of_prepare hs', he]
  · rename_i e he
    refine ⟨e, _, Window.length_get hs, ?_⟩
    rw [write_of_prepare_error he, Window.set_get hs]

end RecordCodec.Leaf
