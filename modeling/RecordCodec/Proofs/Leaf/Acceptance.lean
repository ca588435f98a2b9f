import RecordCodec.Proofs.Leaf.RoundTrip
import RecordCodec.Proofs.Number.Overflow

namespace RecordCodec

-- Powers of natural numbers are those of the core library.
attribute [local instance (high)] instPowNat

/-- Whether a run of bits can be set to a value: text must be a numeral, of binary digits behind the
mark `0b` and otherwise of the base that its own prefix says. -/
def Value.IsRunValue : Value → Prop
  | int _ | bool _ => True
  | text s =>
    ∃ n, Numeral.parse? (if s.startsWith "0b" then .two else .byPrefix) s.toList = some n
  | _ => False

def Value.IsReal : Value → Prop
  | float _ => True
  | again (.other o) => o.float? ≠ Option.none
  | v => ∃ n, v.toInt? = some n ∧ n.natAbs < BinaryFormat.double.overflow

namespace Leaf

def AcceptsChar : Value → Prop
  | .text s => ∃ c : Char, s = String.ofList [c] ∧ c.toNat ≤ 0xFF
  | .bytes data => data.length = 1
  | .int n => 0 ≤ n ∧ n ≤ 255
  | _ => False

def AcceptsBits (c : Container) (options : Value) : Value → Prop
  | .bits b => b.container = c
  | .int n => 0 ≤ n ∧ n < (2 ^ c.width : Nat)
  | .dict entries => ∃ layout, Layout.build options c.width c.name = .ok layout ∧
      ∀ entry ∈ entries, entry.1 ∈ layout.1.names ∧ entry.2.IsRunValue
  | _ => False

/-- What a leaf takes a source for. Only a bitfield goes through the entries of a mapping. -/
def seen (l : Leaf) (data : Bytes) (s : Source) : Value :=
  match l with
  | bits _ => s.opened data
  | _ => s.now data

def Accepts (l : Leaf) (options v : Value) : Prop :=
  match l with
  | int signed size =>
    ∃ n, v.toInt? = some n ∧ (intRange signed size).1 ≤ n ∧ n < (intRange signed size).2
  | single => ∃ x, toDouble? v = some x ∧ x.FitsSingle
  | double => v.IsReal
  | char => AcceptsChar v
  | bool => True
  | bits c => AcceptsBits c options v

end Leaf

theorem Leaf.toDouble?_ne_none_iff (v : Value) : toDouble? v ≠ none ↔ v.IsReal := by
  have hint (n : Int) : Binary64.ofInt? n ≠ none ↔ n.natAbs < BinaryFormat.double.overflow := by
    rw [Ne, Binary64.ofInt?_eq_none_iff, Nat.not_le]
  cases v with
  | float x => exact iff_of_true (Option.some_ne_none x) trivial
  | int n =>
    refine (hint n).trans ⟨fun h ↦ ⟨n, rfl, h⟩, ?_⟩
    rintro ⟨m, hm, h⟩
    cases hm
    exact h
  | bool b =>
    refine (hint (if b then 1 else 0)).trans ⟨fun h ↦ ⟨_, rfl, h⟩, ?_⟩
    rintro ⟨m, hm, h⟩
    cases hm
    exact h
  | again c =>
    cases c with
    | other o => exact Iff.rfl
    | _ =>
      refine iff_of_false (fun h ↦ h rfl) ?_
      rintro ⟨n, hn, -⟩
      cases hn
  | _ =>
    refine iff_of_false (fun h ↦ h rfl) ?_
    rintro ⟨n, hn, -⟩
    cases hn

theorem Leaf.encodeInt?_ne_none_iff (signed : Bool) (size : WordSize) (order : ByteOrder)
    (v : Value) : encodeInt? signed size order v ≠ none ↔ (int signed size).Accepts .none v := by
  simp only [encodeInt?, Accepts, bind]
  cases v.toInt? with
  | none =>
    refine iff_of_false (fun h ↦ h rfl) ?_
    rintro ⟨n, hn, -⟩
    cases hn
  | some n =>
    rw [Option.bind_some]
    split
    · rename_i h
      exact iff_of_true (Option.some_ne_none _) ⟨n, rfl, h⟩
    · rename_i h
      refine iff_of_false (fun hne ↦ hne rfl) ?_
      rintro ⟨m, hm, hrange⟩
      cases hm
      exact absurd hrange h

theorem encode?_eq_singleton_iff (s : String) :
    (∃ b, Latin1.encode? s = some [b]) ↔ ∃ c : Char, s = String.ofList [c] ∧ c.toNat ≤ 0xFF := by
  constructor
  · rintro ⟨b, h⟩
    cases hs : s.toList with
    | nil =>
      rw [Latin1.encode?, hs] at h
      cases h
    | cons c rest =>
      rw [Latin1.encode?, hs, mapM_eq_some] at h
      cases h with
      | cons hc hrest =>
        cases hrest
        refine ⟨c, ?_, ?_⟩
        · rw [← hs, String.ofList_toList]
        · rw [Latin1.byte?] at hc
          split at hc
          · omega
          · contradiction
  · rintro ⟨c, rfl, hc⟩
    have hbyte : Latin1.byte? c = some (UInt8.ofNat c.toNat) := if_pos (by omega)
    refine ⟨UInt8.ofNat c.toNat, ?_⟩
    rw [Latin1.encode?, String.toList_ofList, mapM_eq_some]
    exact .cons hbyte .nil

theorem Leaf.charByte_eq_ok_iff (v : Value) : (∃ b, charByte v = .ok b) ↔ AcceptsChar v := by
  cases v with
  | text s =>
    rw [AcceptsChar, ← encode?_eq_singleton_iff]
    simp only [charByte]
    split
    · rename_i b h
      exact iff_of_true ⟨b, rfl⟩ ⟨b, h⟩
    · rename_i data hne h
      refine iff_of_false (not_exists_ok _) ?_
      rintro ⟨b, hb⟩
      exact hne b (Option.some.inj (h.symm.trans hb))
    · rename_i h
      refine iff_of_false (not_exists_ok _) ?_
      rintro ⟨b, hb⟩
      rw [h] at hb
      cases hb
  | int n =>
    simp only [charByte, AcceptsChar]
    split
    · exact iff_of_true ⟨_, rfl⟩ (by omega)
    · exact iff_of_false (not_exists_ok _) (by omega)
  | bytes data =>
    rw [AcceptsChar, List.length_eq_one_iff]
    constructor
    · rintro ⟨b, h⟩
      cases data with
      | nil => cases h
      | cons b' rest =>
        cases rest with
        | nil => exact ⟨b', rfl⟩
        | cons => cases h
    · rintro ⟨b, rfl⟩
      exact ⟨b, rfl⟩
  | _ => exact iff_of_false (not_exists_ok _) id

namespace Layout

variable {l : Layout} {name : String}

theorem names_placeFrom (fields : List SubField) (offset : Nat) :
    (placeFrom offset fields).map (fun p ↦ p.field.name) = fields.map SubField.name := by
  induction fields generalizing offset with
  | nil => rfl
  | cons f rest ih => rw [placeFrom, List.map_cons, List.map_cons, ih]

theorem find?_eq_none_iff : l.find? name = none ↔ name ∉ l.names := by
  rw [find?, List.find?_eq_none, names, ← names_placeFrom l.fields 0, List.mem_map, not_exists]
  refine forall_congr' fun p ↦ ?_
  rw [not_and, beq_iff_eq]
  rfl

end Layout

namespace Bitfield

variable {b b' : Bitfield} {entry : String × Value}

theorem runValue_eq_ok_iff (name : String) (v : Value) :
    (∃ n, runValue name v = .ok n) ↔ v.IsRunValue := by
  cases v with
  | int n => exact iff_of_true ⟨n, rfl⟩ trivial
  | bool b => exact iff_of_true ⟨_, rfl⟩ trivial
  | text s =>
    simp only [runValue, Value.IsRunValue]
    cases Numeral.parse? (if s.startsWith "0b" then .two else .byPrefix) s.toList with
    | none =>
      refine iff_of_false (not_exists_ok _) ?_
      rintro ⟨n, hn⟩
      cases hn
    | some n => exact iff_of_true ⟨n, rfl⟩ ⟨n, rfl⟩
  | _ => exact iff_of_false (not_exists_ok _) id

theorem assign_eq_ok (h : b.assign entry = .ok b') :
    entry.1 ∈ b.layout.names ∧ (∃ n, runValue entry.1 entry.2 = .ok n) ∧ b'.layout = b.layout := by
  rw [assign] at h
  split at h
  · contradiction
  · rename_i p hp
    obtain ⟨n, hn, h⟩ := bind_eq_ok.1 h
    cases h
    refine ⟨?_, ⟨n, hn⟩, rfl⟩
    by_contra hname
    rw [Layout.find?_eq_none_iff.2 hname] at hp
    cases hp

theorem assign_eq_ok_iff : (∃ b', b.assign entry = .ok b') ↔
    entry.1 ∈ b.layout.names ∧ entry.2.IsRunValue := by
  constructor
  · rintro ⟨b', h⟩
    obtain ⟨hname, hvalue, -⟩ := assign_eq_ok h
    exact ⟨hname, (runValue_eq_ok_iff _ _).1 hvalue⟩
  · rintro ⟨hname, hvalue⟩
    obtain ⟨n, hn⟩ := (runValue_eq_ok_iff entry.1 _).2 hvalue
    rw [assign]
    split
    · rename_i hnone
      exact absurd hname (Layout.find?_eq_none_iff.1 hnone)
    · rw [hn]
      exact ⟨_, rfl⟩

theorem foldlM_assign_eq_ok_iff (entries : List (String × Value)) (b : Bitfield) :
    (∃ b', entries.foldlM assign b = .ok b') ↔
      ∀ entry ∈ entries, entry.1 ∈ b.layout.names ∧ entry.2.IsRunValue := by
  induction entries generalizing b with
  | nil => exact iff_of_true ⟨b, rfl⟩ (List.forall_mem_nil _)
  | cons entry rest ih =>
    rw [List.forall_mem_cons, ← assign_eq_ok_iff]
    constructor
    · rintro ⟨b', h⟩
      rw [List.foldlM_cons, bind_eq_ok] at h
      obtain ⟨next, hnext, h⟩ := h
      refine ⟨⟨next, hnext⟩, ?_⟩
      rw [← (assign_eq_ok hnext).2.2]
      exact (ih next).1 ⟨b', h⟩
    · rintro ⟨⟨next, hnext⟩, hrest⟩
      rw [← (assign_eq_ok hnext).2.2] at hrest
      obtain ⟨b', h⟩ := (ih next).2 hrest
      exact ⟨b', by rw [List.foldlM_cons, hnext]; exact h⟩

theorem ofRaw_eq_ok_iff {c : Container} {raw : Int} {options : Value}
    (ha : (Leaf.bits c).Admits options) :
    (∃ b, ofRaw c raw options = .ok b) ↔ 0 ≤ raw ∧ raw < (2 ^ c.width : Nat) := by
  obtain ⟨layout, hlayout⟩ := ha
  rw [ofRaw]
  split
  · rename_i h
    rw [hlayout]
    exact iff_of_true ⟨_, rfl⟩ h
  · rename_i h
    exact iff_of_false (not_exists_ok _) h

theorem exists_coerce_start {c : Container} {options : Value}
    {layout : { l : Layout // (l.width : Int) ≤ c.width }}
    (hl : Layout.build options c.width c.name = .ok layout) :
    ∃ start, start.container = c ∧ start.layout = layout.1 ∧ start.raw = 0 ∧
      ∀ entries, coerce c (.dict entries) options = entries.foldlM assign start := by
  obtain ⟨start, hstart, hc, hraw, hl'⟩ := Leaf.ofRaw_eq_ok (Nat.two_pow_pos c.width) hl
  refine ⟨start, hc, hl', hraw, fun entries ↦ ?_⟩
  rw [coerce, ← Int.natCast_zero, hstart]
  rfl

theorem coerce_eq_ok_iff {c : Container} {options : Value} (ha : (Leaf.bits c).Admits options)
    (v : Value) : (∃ b, coerce c v options = .ok b) ↔ Leaf.AcceptsBits c options v := by
  cases v with
  | bits b =>
    simp only [coerce, Leaf.AcceptsBits]
    split
    · rename_i h
      exact iff_of_true ⟨b, rfl⟩ h
    · rename_i h
      exact iff_of_false (not_exists_ok _) h
  | int n => exact ofRaw_eq_ok_iff ha
  | dict entries =>
    obtain ⟨layout, hlayout⟩ := ha
    obtain ⟨start, -, hl, -, hcoerce⟩ := exists_coerce_start hlayout
    rw [hcoerce, foldlM_assign_eq_ok_iff, hl, Leaf.AcceptsBits]
    constructor
    · exact fun h ↦ ⟨layout, hlayout, h⟩
    · rintro ⟨layout', hlayout', h⟩
      cases hlayout.symm.trans hlayout'
      exact h
  | _ => exact iff_of_false (not_exists_ok _) id

end Bitfield

namespace Leaf

theorem encoding?_ne_none_iff {l : Leaf} {options : Value} (ha : l.Admits options)
    (order : ByteOrder) (data : Bytes) (s : Source) :
    l.encoding? order options data s ≠ none ↔ l.Accepts options (l.seen data s) := by
  cases l with
  | int signed size => exact encodeInt?_ne_none_iff signed size order (s.now data)
  | single =>
    have hnow : single.encoding? order options data s =
        ((toDouble? (s.now data)).bind Binary64.narrow?).map (order.encode 4) := rfl
    rw [hnow, Ne, Option.map_eq_none_iff, Option.bind_eq_none_iff]
    constructor
    · intro h
      by_contra hne
      refine h fun x hx ↦ (Binary64.narrow?_eq_none_iff x).2 fun hfits ↦ hne ⟨x, hx, hfits⟩
    · rintro ⟨x, hx, hfits⟩ h
      exact (Binary64.narrow?_eq_none_iff x).1 (h x hx) hfits
  | double =>
    have hnow : double.encoding? order options data s =
        (toDouble? (s.now data)).map fun x ↦ order.encode 8 x.bits.toNat := rfl
    rw [hnow, Ne, Option.map_eq_none_iff, ← Ne, toDouble?_ne_none_iff]
    exact Iff.rfl
  | char =>
    refine Iff.trans ?_ (charByte_eq_ok_iff (s.now data))
    simp only [encoding?, prepare]
    cases charByte (s.now data) with
    | error e => exact iff_of_false (fun h ↦ h rfl) (not_exists_ok e)
    | ok b => exact iff_of_true (Option.some_ne_none _) ⟨b, rfl⟩
  | bool =>
    refine iff_of_true ?_ trivial
    simp only [encoding?, prepare]
    cases (s.now data).isTrue with
    | true => exact Option.some_ne_none _
    | false => exact Option.some_ne_none _
  | bits c =>
    rw [Accepts, seen, ← Bitfield.coerce_eq_ok_iff ha]
    simp only [encoding?, prepare]
    cases Bitfield.coerce c (s.opened data) options with
    | error e => exact iff_of_false (fun h ↦ h rfl) (not_exists_ok e)
    | ok b => exact iff_of_true (Option.some_ne_none _) ⟨b, rfl⟩

end Leaf

end RecordCodec
