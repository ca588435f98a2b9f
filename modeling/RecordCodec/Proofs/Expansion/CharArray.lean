import RecordCodec.Proofs.Expansion.Acceptance
import RecordCodec.Proofs.Expansion.Rejection
import RecordCodec.Proofs.Expansion.Write
import RecordCodec.Proofs.Leaf.CharSpellings

namespace RecordCodec.Expansion

open Leaf

theorem placesFrom_append (offset : Nat) (front rest : List (String × Expansion)) :
    placesFrom offset (front ++ rest) =
      placesFrom offset front ++ placesFrom (offset + sizeAll front) rest := by
  induction front generalizing offset with
  | nil => rfl
  | cons m front ih =>
    rw [List.cons_append, placesFrom, placesFrom, ih, sizeAll, List.append_assoc, Nat.add_assoc]

theorem sizeAll_append (front rest : List (String × Expansion)) :
    sizeAll (front ++ rest) = sizeAll front + sizeAll rest := by
  induction front with
  | nil => exact (Nat.zero_add _).symm
  | cons m front ih => rw [List.cons_append, sizeAll, ih, sizeAll, Nat.add_assoc]

section Members

variable {order : ByteOrder} {data : Bytes} {s t : Source} {entries : List (String × Source)}
  {members front rest : List (String × Expansion)} {name record : String} {x : Expansion}

theorem encoding?_ne_none_of_encodable (order : ByteOrder) (hsound : ∀ m ∈ members, m.2.Sound)
    (hentries : s.entries? = some entries)
    (h : ∀ m ∈ members, ∃ t, entries.lookup m.1 = some t ∧ m.2.Encodable data t) (offset : Nat) :
    ∀ place ∈ placesFrom offset members, place.encoding? order data s ≠ none := by
  refine (encodableMembers_iff order data offset members hsound s entries hentries).1 ?_
  clear hsound
  induction members with
  | nil => trivial
  | cons m rest ih =>
    obtain ⟨hm, hrest⟩ := List.forall_mem_cons.1 h
    exact ⟨hm, ih hrest⟩

theorem step?_member (hentries : s.entries? = some entries) (ht : entries.lookup name = some t) :
    s.step? data (.member name) = some t := by
  rw [Source.step?, hentries, Option.bind_some, ht]

theorem exists_writeMembers_front (hsound : ∀ m ∈ front, m.2.Sound) {start : Nat}
    (hfit : start + sizeAll front ≤ data.length) (hentries : s.entries? = some entries)
    {offset : Nat} (h : ∀ place ∈ placesFrom offset front, place.encoding? order data s ≠ none) :
    ∃ after : Bytes, after.length = data.length ∧ ∀ e last,
      (writeMembers order record entries rest (start + sizeAll front)).run after = .error e last →
      (writeMembers order record entries (front ++ rest) start).run data = .error e last := by
  induction front generalizing data start offset with
  | nil => exact ⟨data, rfl, fun e last he ↦ he⟩
  | cons m front ih =>
    obtain ⟨name, x⟩ := m
    have hx : x.Sound := hsound _ List.mem_cons_self
    have hfront : ∀ m ∈ front, m.2.Sound := fun m hm ↦ hsound m (List.mem_cons_of_mem _ hm)
    rw [sizeAll] at hfit
    rw [placesFrom, List.forall_mem_append, List.forall_mem_map] at h
    obtain ⟨hfirst, hothers⟩ := h
    obtain ⟨place, hplace⟩ := exists_place hx.size_pos
    obtain ⟨t, ht⟩ : ∃ t, entries.lookup name = some t := by
      cases ht : entries.lookup name with
      | some t => exact ⟨t, rfl⟩
      | none =>
        have hnone := hfirst place hplace
        rw [Place.encoding?_under, Source.step?, hentries, Option.bind_some, ht] at hnone
        exact absurd rfl hnone
    have hencodings : ∀ q ∈ x.places, q.encoding? order data t ≠ none := by
      intro q hq
      have hne := hfirst q hq
      rwa [Place.encoding?_under, step?_member hentries ht] at hne
    obtain ⟨blocks, -, hlength, hrun⟩ :=
      write_of_encodings hx order t (show start + x.size ≤ data.length by omega) hencodings
    have hsame := Window.SameFrom.set data start blocks.flatten (by omega)
    rw [hlength] at hsame
    have hfit' : start + x.size + sizeAll front ≤
        (Window.set data start blocks.flatten).length := by
      rw [hsame.length_eq]
      omega
    obtain ⟨after, hafter, herror⟩ := ih hfront hfit' fun q hq ↦ by
      rw [encodingFrom?_of_sameOn _ front (hsame.sameOn _) q hq s (by omega)]
      exact hothers q hq
    refine ⟨after, hafter.trans hsame.length_eq, fun e last he ↦ ?_⟩
    rw [sizeAll, ← Nat.add_assoc] at he
    simp only [List.cons_append, writeMembers, ht, EStateM.run_bind, hrun, herror e last he]

end Members

def charArray (member : String) (count : Nat) : Expansion :=
  array member count (leaf .char .none)

section CharArray

variable {order : ByteOrder} {data : Bytes} {t : Source} {member : String} {count : Nat}

theorem places_charArray (member : String) (count : Nat) : (charArray member count).places =
    (List.range count).map fun i ↦ ⟨i, .char, .none, [.element count i]⟩ := by
  rw [charArray, places]
  simp [places, size, Leaf.size, Place.under, ← List.map_eq_flatMap]

theorem size_charArray (member : String) (count : Nat) : (charArray member count).size = count := by
  rw [charArray, size, size, Leaf.size, Nat.mul_one]

theorem encoding?_char {options : Value} {u : Source} {b : UInt8}
    (h : charByte (u.now data) = .ok b) : char.encoding? order options data u = some [b] := by
  simp only [encoding?, prepare, h]
  rfl

theorem encoding?_char_ne_none_iff (order : ByteOrder) (data : Bytes) (options : Value)
    (u : Source) : char.encoding? order options data u ≠ none ↔ AcceptsChar (u.now data) :=
  @Leaf.encoding?_ne_none_iff .char options trivial order data u

theorem map_encoding?_charArray {text : String} {block : Bytes} (h : t.Spells data text)
    (hblock : Latin1.encode? text = some block) (hcount : text.length = count)
    (order : ByteOrder) (member : String) :
    (charArray member count).places.map (Place.encoding? · order data t) =
      (block.map fun b ↦ [b]).map some := by
  obtain ⟨items, hitems, hspells⟩ := h
  have hbytes := mapM_eq_some.1 hblock
  have hlength : items.length = count := by
    rw [← hspells.length_eq, String.length_toList, hcount]
  have hlength' : block.length = count := by
    rw [← hbytes.length_eq, String.length_toList, hcount]
  subst hlength
  rw [places_charArray]
  apply List.ext_getElem
  · simp [hlength']
  · intro i hi hi'
    have hlt : i < items.length := by simpa using hi
    have hchar : i < text.toList.length := hspells.length_eq ▸ hlt
    have hspelled := hspells.get hchar hlt
    have hbyte := hbytes.get hchar (hlength' ▸ hlt)
    simp only [List.map_map, List.getElem_map, List.getElem_range, Function.comp_apply,
      Place.encoding?, Source.part?, step?_element hitems, List.getElem?_eq_getElem hlt]
    exact encoding?_char (hspelled.charByte_eq hbyte)

end CharArray

/-- A leaf without an encoding is to be blamed, and a character for the error of its part. -/
def charBlame (order : ByteOrder) : Blame := fun _ l options data part e _ ↦
  part.bind (l.encoding? order options data) = none ∧
    (l = .char → ∀ u, part = some u →
      ∃ shown : Bytes, shown.length = data.length ∧ charByte (u.now shown) = .error e)

theorem covers_charBlame (order : ByteOrder) : (charBlame order).Covers where
  steady {_ l options _ _ part _ _} hlength htaken h := by
    refine ⟨?_, fun hl u hu ↦ ?_⟩
    · rw [← h.1]
      cases part with
      | none => rfl
      | some u => exact Leaf.encoding?_of_length_eq (htaken u rfl) hlength.symm l order options
    · obtain ⟨shown, hshown, he⟩ := h.2 hl u hu
      exact ⟨shown, hshown.trans hlength, he⟩
  absent _ := ⟨rfl, fun _ u hu ↦ absurd hu.symm (Option.some_ne_none u)⟩

theorem explains_charBlame (order : ByteOrder) : (charBlame order).Explains order := by
  intro _ l options data s start _ hfit hnone e left _ hrun
  refine ⟨hnone, ?_⟩
  rintro rfl u hu
  cases hu
  obtain ⟨hprepare, -⟩ := Leaf.write_eq_error_of_not_isNumeric rfl hfit hrun
  refine ⟨data, rfl, ?_⟩
  rw [prepare] at hprepare
  cases hbyte : charByte (s.now data) with
  | error e' =>
    rw [hbyte] at hprepare
    exact congrArg _ (Except.error.inj hprepare)
  | ok b =>
    rw [hbyte] at hprepare
    cases hprepare

section Record

variable {order : ByteOrder} {data after : Bytes} {s t : Source} {start : Nat}
  {entries : List (String × Source)} {front rest : List (String × Expansion)}
  {record member : String} {count : Nat}

def withCharArray (record member : String) (count : Nat)
    (front rest : List (String × Expansion)) : Expansion :=
  .record record (front ++ (member, charArray member count) :: rest)

theorem places_withCharArray : (withCharArray record member count front rest).places =
    placesFrom 0 front ++
      ((charArray member count).places.map (.under (.member member) (sizeAll front)) ++
        placesFrom (sizeAll front + count) rest) := by
  rw [withCharArray, places, placesFrom_append, placesFrom, size_charArray, Nat.zero_add]

theorem mem_places_withCharArray {place : Place} :
    place ∈ (withCharArray record member count front rest).places ↔
      place ∈ placesFrom 0 front ∨
      (∃ i < count,
        place = ⟨sizeAll front + i, .char, .none, [.member member, .element count i]⟩) ∨
      place ∈ placesFrom (sizeAll front + count) rest := by
  rw [places_withCharArray, List.mem_append, List.mem_append, places_charArray, List.map_map,
    List.mem_map]
  simp only [List.mem_range, Function.comp_apply, Place.under, @eq_comm _ _ place]

variable (hentries : s.entries? = some entries) (ht : entries.lookup member = some t)
include hentries ht

theorem window_charArray
    (h : (withCharArray record member count front rest).Complete order s start data after)
    {text : String} {block : Bytes} (hspells : t.Spells data text)
    (hblock : Latin1.encode? text = some block) (hcount : text.length = count) :
    Window.get after (start + sizeAll front) count = block := by
  have hmap := map_encoding?_charArray hspells hblock hcount order member
  have hencoding (q : Place) (hq : q ∈ (charArray member count).places) :
      q.encoding? order data t = some (q.window after (start + sizeAll front)) := by
    have hplace := h.encoding?_eq (q.under (.member member) (sizeAll front)) (by
      rw [places_withCharArray]
      exact List.mem_append_right _ (List.mem_append_left _ (List.mem_map_of_mem hq)))
    rwa [Place.encoding?_under, step?_member hentries ht, Option.bind_some,
      Place.window_under] at hplace
  have hwindows := (charArray member count).packed_places.flatten_eq hmap hencoding
  rw [size_charArray, Nat.add_zero, Nat.sub_zero] at hwindows
  rw [← hwindows, ← List.flatMap_def, List.flatMap_singleton']

variable (hsound : (withCharArray record member count front rest).Sound)
  (hfit : start + (withCharArray record member count front rest).size ≤ data.length)
  (hothers : ∀ m ∈ front ++ rest, ∃ u, entries.lookup m.1 = some u ∧ m.2.Encodable data u)
include hsound hfit hothers

omit ht hfit in
theorem encoding?_ne_none_of_others (order : ByteOrder) :
    (∀ place ∈ placesFrom 0 front, place.encoding? order data s ≠ none) ∧
      ∀ place ∈ placesFrom (sizeAll front + count) rest, place.encoding? order data s ≠ none := by
  obtain ⟨hfront, hrest⟩ := List.forall_mem_append.1 hothers
  cases hsound with
  | record _ _ hmembers =>
    obtain ⟨hsoundFront, hsoundRest⟩ := List.forall_mem_append.1 hmembers
    exact ⟨encoding?_ne_none_of_encodable order hsoundFront hentries hfront 0,
      encoding?_ne_none_of_encodable order (List.forall_mem_cons.1 hsoundRest).2 hentries hrest _⟩

omit hfit in
theorem encoding?_ne_none_of_spells {text : String} {block : Bytes} (hspells : t.Spells data text)
    (hblock : Latin1.encode? text = some block) (hcount : text.length = count) :
    ∀ place ∈ (withCharArray record member count front rest).places,
      place.encoding? order data s ≠ none := by
  obtain ⟨hfront, hrest⟩ := encoding?_ne_none_of_others hentries hsound hothers order
  have hall := ne_none_of_map_eq (map_encoding?_charArray hspells hblock hcount order member)
  intro place hplace
  rw [places_withCharArray, List.mem_append, List.mem_append] at hplace
  rcases hplace with hplace | hplace | hplace
  · exact hfront place hplace
  · obtain ⟨q, hq, rfl⟩ := List.mem_map.1 hplace
    rw [Place.encoding?_under, step?_member hentries ht, Option.bind_some]
    exact hall q hq
  · exact hrest place hplace

theorem write_of_itemCount {items : List Source} (hitems : t.items? data = some items)
    (hlength : items.length ≠ count) : ∃ last,
      ((withCharArray record member count front rest).write order s start).run data =
        .error (.itemCount member count items.length) last := by
  obtain ⟨hfront, -⟩ := encoding?_ne_none_of_others hentries hsound hothers order
  have hsoundFront : ∀ m ∈ front, m.2.Sound := by
    cases hsound with
    | record _ _ hmembers => exact (List.forall_mem_append.1 hmembers).1
  rw [withCharArray, size, sizeAll_append] at hfit
  obtain ⟨after, hafter, herror⟩ := @exists_writeMembers_front order data s entries front
    ((member, charArray member count) :: rest) record hsoundFront start (by omega) hentries 0 hfront
  refine ⟨after, ?_⟩
  rw [withCharArray, write, hentries]
  apply herror
  have hsame : t.items? after = some items := by
    rw [Source.items?_of_length_eq hafter, hitems]
  simp only [writeMembers, ht, charArray, write, arrayItems, EStateM.run_bind, EStateM.run_get,
    hsame, if_neg hlength]
  rfl

/-- With the right number of items, one that stands for no character is refused. -/
theorem write_of_not_acceptsChar {items : List Source} (hitems : t.items? data = some items)
    (hlength : items.length = count)
    (hrefused : ∃ item ∈ items, ¬ AcceptsChar ((item.taken data).now data)) : ∃ e last,
      ((withCharArray record member count front rest).write order s start).run data =
        .error e last ∧
      ∃ item ∈ items, ¬ AcceptsChar ((item.taken data).now data) ∧
        ∃ shown : Bytes, shown.length = data.length ∧
          charByte ((item.taken data).now shown) = .error e := by
  subst hlength
  obtain ⟨hfront, hrest⟩ := encoding?_ne_none_of_others hentries hsound hothers order
  have hprogress := write_progress (covers_charBlame order) (explains_charBlame order) _ hsound data
    s start hfit
  have hpart (i : Nat) (hi : i < items.length) :
      s.part? data [.member member, .element items.length i] = some (items[i].taken data) := by
    simp only [Source.part?, step?_member hentries ht, Option.bind_some, step?_element hitems,
      List.getElem?_eq_getElem hi, Option.map_some]
  generalize ((withCharArray record member items.length front rest).write order s start).run data =
    result at hprogress ⊢
  cases hprogress with
  | completed hall =>
    -- the refused item has no encoding, so not all leaves can have one
    obtain ⟨item, hitem, hrefused⟩ := hrefused
    obtain ⟨i, hi, rfl⟩ := List.getElem_of_mem hitem
    have hne := ne_none_of_map_eq hall _
      (mem_places_withCharArray.2 (.inr (.inl ⟨i, hi, rfl⟩)))
    rw [Encoder.At, hpart i hi, Option.bind_some] at hne
    exact absurd ((encoding?_char_ne_none_iff order data .none _).1 hne) hrefused
  | @halted e done place rest' blocks left hsplit hdone hblame =>
    obtain ⟨hnone, hshown⟩ := hblame
    -- the leaves of the other members have encodings, so it is an item that was refused
    rcases mem_places_withCharArray.1 (hsplit ▸ List.mem_append_right _ List.mem_cons_self) with
      hplace | ⟨i, hi, rfl⟩ | hplace
    · exact absurd hnone (hfront place hplace)
    · refine ⟨e, _, rfl, items[i], List.getElem_mem hi, ?_, hshown rfl _ (hpart i hi)⟩
      rw [← encoding?_char_ne_none_iff order data .none, not_not]
      rwa [hpart i hi, Option.bind_some] at hnone
    · exact absurd hnone (hrest place hplace)

end Record

end RecordCodec.Expansion
