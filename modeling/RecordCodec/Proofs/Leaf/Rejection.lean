import RecordCodec.Proofs.Expansion.Basic
import RecordCodec.Proofs.Leaf.Errors
import RecordCodec.Proofs.Leaf.Memory

namespace RecordCodec

-- Powers of natural numbers are those of the core library.
attribute [local instance (high)] instPowNat

def Container.overflow? (c : Container) : Value → Option Error
  | .int n => if 0 ≤ n ∧ n < (2 ^ c.width : Nat) then none else some (.rawTooWide n c.width)
  | _ => none

/-- The error of a source that is an integer without room in the leaf, where that is a bitfield. -/
def Leaf.overflow? (l : Leaf) (data : Bytes) (s : Source) : Option Error :=
  match l with
  | bits c => c.overflow? (s.opened data)
  | _ => none

/-- Whether an error is the given one, or without it one of a value that cannot be encoded. -/
def Error.Reports (e : Error) : Option Error → Prop
  | some wide => e = wide
  | none => e.causeKind = .encode

theorem Container.causeKind_of_overflow? {c : Container} {v : Value} {wide : Error}
    (h : c.overflow? v = some wide) : wide.causeKind = .widthOverflow := by
  unfold overflow? at h
  split at h
  · split at h
    · cases h
    · cases h
      rfl
  · cases h

theorem Leaf.causeKind_of_overflow? {l : Leaf} {data : Bytes} {s : Source} {wide : Error}
    (h : l.overflow? data s = some wide) : wide.causeKind = .widthOverflow := by
  cases l with
  | bits c => exact Container.causeKind_of_overflow? h
  | _ => cases h

theorem Container.overflow?_alike {v w : Value} (h : v.Alike w) (c : Container) :
    c.overflow? v = c.overflow? w := by
  cases h with
  | refl => rfl
  | _ => rfl

theorem Leaf.overflow?_of_length_eq {data data' : Bytes} {s : Source} (hs : s.IsTaken)
    (h : data'.length = data.length) (l : Leaf) : l.overflow? data' s = l.overflow? data s := by
  cases l with
  | bits c => exact Container.overflow?_alike (Source.opened_alike hs h) c
  | _ => rfl

namespace Bitfield

variable {c : Container} {layout : Value}

theorem exists_ofRaw (ha : (Leaf.bits c).Admits layout) {raw : Int}
    (hraw : 0 ≤ raw ∧ raw < (2 ^ c.width : Nat)) : ∃ b, ofRaw c raw layout = .ok b := by
  obtain ⟨l, hl⟩ := ha
  rw [ofRaw, dif_pos hraw, hl]
  exact ⟨_, rfl⟩

theorem coerce_reports (ha : (Leaf.bits c).Admits layout) (v : Value) :
    FailsWith (·.Reports (c.overflow? v)) (coerce c v layout) := by
  cases v with
  | bits b =>
    simp only [coerce]
    split
    · exact .ok _
    · exact .error rfl
  | int n =>
    by_cases hn : 0 ≤ n ∧ n < (2 ^ c.width : Nat)
    · obtain ⟨b, hb⟩ := exists_ofRaw ha hn
      simp only [coerce, hb]
      exact .ok b
    · simp only [coerce, ofRaw, dif_neg hn, Container.overflow?, if_neg hn]
      exact .error rfl
  | dict entries =>
    obtain ⟨b, hb⟩ := exists_ofRaw ha ⟨Int.le_refl 0, Int.natCast_pos.2 (Nat.two_pow_pos c.width)⟩
    simp only [coerce, hb, ok_bind]
    exact .foldlM (fun b entry _ ↦ assign_failsToEncode b entry) b
  | _ => exact .error rfl

end Bitfield

namespace Leaf

variable {l : Leaf} {order : ByteOrder} {options : Value} {data after : Bytes} {s prepared : Source}
  {start : Nat} {e : Error}

theorem prepare_reports (ha : l.Admits options) (data : Bytes) (s : Source) :
    FailsWith (·.Reports (l.overflow? data s)) (l.prepare options data s) := by
  cases l with
  | int | single | double | bool => exact .ok _
  | char => exact (charByte_failsToEncode _).bind fun b ↦ .ok _
  | bits c => exact (Bitfield.coerce_reports ha _).bind fun b ↦ .ok _

def isNumeric : Leaf → Bool
  | int .. | single | double => true
  | char | bool | bits _ => false

theorem prepare_of_isNumeric (hl : l.isNumeric = true) (options : Value) (data : Bytes)
    (s : Source) : l.prepare options data s = .ok s := by
  cases l with
  | int | single | double => rfl
  | char | bool | bits => cases hl

theorem overflow?_of_isNumeric (hl : l.isNumeric = true) (data : Bytes) (s : Source) :
    l.overflow? data s = none := by
  cases l with
  | bits => cases hl
  | _ => rfl

theorem exists_encode?_of_prepare (hl : l.isNumeric = false)
    (h : l.prepare options data s = .ok prepared) (order : ByteOrder) :
    ∃ block, l.encode? order (prepared.now data) = some block := by
  cases l with
  | int | single | double => cases hl
  | char =>
    obtain ⟨b, -, hb⟩ := bind_eq_ok.1 h
    cases hb
    exact ⟨[b], rfl⟩
  | bool =>
    cases h
    by_cases htrue : (s.now data).isTrue = true
    · rw [if_pos htrue]
      exact ⟨_, rfl⟩
    · rw [if_neg htrue]
      exact ⟨_, rfl⟩
  | bits c =>
    obtain ⟨b, -, hb⟩ := bind_eq_ok.1 h
    cases hb
    exact ⟨_, rfl⟩

theorem write_eq_error_of_isNumeric (hl : l.isNumeric = true) (hfit : start + l.size ≤ data.length)
    (h : (l.write order options s start).run data = .error e after) :
    l.encode? order (s.now data) = none ∧ (l.store order s start).run data = .error e after := by
  rw [write_of_prepare (prepare_of_isNumeric hl options data s)] at h
  cases hencode : l.encode? order (s.now data) with
  | none => exact ⟨rfl, h⟩
  | some block =>
    rw [store_of_some hencode hfit] at h
    cases h

theorem write_eq_error_of_not_isNumeric (hl : l.isNumeric = false)
    (hfit : start + l.size ≤ data.length)
    (h : (l.write order options s start).run data = .error e after) :
    l.prepare options data s = .error e ∧ after = data := by
  cases hprepare : l.prepare options data s with
  | error e' =>
    rw [write_of_prepare_error hprepare] at h
    cases h
    exact ⟨rfl, rfl⟩
  | ok prepared =>
    obtain ⟨block, hblock⟩ := exists_encode?_of_prepare hl hprepare order
    rw [write_of_prepare hprepare, store_of_some hblock hfit] at h
    cases h

theorem store_eq_error (hencode : l.encode? order (s.now data) = none)
    (hfit : start + l.size ≤ data.length)
    (h : (l.store order s start).run data = .error e after) : e.causeKind = .encode := by
  obtain ⟨shown, hrun⟩ := store_of_none hencode hfit
  rw [hrun] at h
  cases h
  rfl

/-- Before the value is prepared nothing is stored; after that only the value can be at fault. -/
theorem prepare_eq_error_or_rejects (hfit : start + l.size ≤ data.length)
    (h : (l.write order options s start).run data = .error e after) :
    l.prepare options data s = .error e ∧ after = data ∨ e.IsRejection := by
  cases hl : l.isNumeric with
  | true =>
    obtain ⟨hencode, hstore⟩ := write_eq_error_of_isNumeric hl hfit h
    exact .inr (.inl (store_eq_error hencode hfit hstore))
  | false => exact .inl (write_eq_error_of_not_isNumeric hl hfit h)

theorem write_reports (ha : l.Admits options) (hfit : start + l.size ≤ data.length)
    (h : (l.write order options s start).run data = .error e after) :
    e.Reports (l.overflow? data s) := by
  cases hl : l.isNumeric with
  | true =>
    obtain ⟨hencode, hstore⟩ := write_eq_error_of_isNumeric hl hfit h
    rw [overflow?_of_isNumeric hl]
    exact store_eq_error hencode hfit hstore
  | false =>
    obtain ⟨hprepare, -⟩ := write_eq_error_of_not_isNumeric hl hfit h
    exact prepare_reports ha data s e hprepare

end Leaf

end RecordCodec
