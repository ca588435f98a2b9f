import RecordCodec.Proofs.Bitfield.Cells

namespace RecordCodec

-- Powers of natural numbers are those of the core library.
attribute [local instance (high)] instPowNat

namespace Layout

def bitsOf : Value × Value → Int
  | (_, .int n) => n
  | _ => 0

def sumBits : List (Value × Value) → Int
  | [] => 0
  | pair :: rest => bitsOf pair + sumBits rest

/-- Whether runs are those of the pairs, each where the ones before it end. -/
structure Places (pairs : List (Value × Value)) (rows : List Placed) : Prop where
  rows_eq : rows.map (fun p ↦ (Value.text p.field.name, Value.int p.field.width)) = pairs
  offset_eq : ∀ i p, rows[i]? = some p → (p.offset : Int) = sumBits (pairs.take i)
  ordered : rows.Pairwise fun p q ↦ p.offset + p.field.width ≤ q.offset
  covered : ∀ bit : Nat, (∃ p ∈ rows, p.offset ≤ bit ∧ bit < p.offset + p.field.width) ↔
    (bit : Int) < sumBits pairs

variable {l : Layout} {fields : List SubField} {offset : Nat} {p : Placed}

theorem map_field_placeFrom (fields : List SubField) (offset : Nat) :
    (placeFrom offset fields).map Placed.field = fields := by
  induction fields generalizing offset with
  | nil => rfl
  | cons f rest ih => rw [placeFrom, List.map_cons, ih]

theorem offset_of_getElem?_placeFrom {i : Nat} (h : (placeFrom offset fields)[i]? = some p) :
    p.offset = offset + totalWidth (fields.take i) := by
  induction fields generalizing offset i with
  | nil => simp [placeFrom] at h
  | cons f rest ih =>
    cases i with
    | zero =>
      cases h
      rfl
    | succ i =>
      rw [ih h, List.take_succ_cons, totalWidth, Nat.add_assoc]

theorem exists_mem_placeFrom_iff {bit : Nat} :
    (∃ p ∈ placeFrom offset fields, p.offset ≤ bit ∧ bit < p.offset + p.field.width) ↔
      offset ≤ bit ∧ bit < offset + totalWidth fields := by
  induction fields generalizing offset with
  | nil => simp [placeFrom, totalWidth]
  | cons f rest ih =>
    simp only [placeFrom, List.exists_mem_cons_iff, ih, totalWidth]
    omega

theorem sumBits_map (fields : List SubField) :
    sumBits (fields.map fun f ↦ (Value.text f.name, Value.int f.width)) = totalWidth fields := by
  induction fields with
  | nil => rfl
  | cons f rest ih => rw [List.map_cons, sumBits, ih, bitsOf, totalWidth, Int.natCast_add]

theorem sumBits_valuePairs (l : Layout) : sumBits l.valuePairs = l.width := by
  rw [valuePairs_eq, sumBits_map, width]

theorem places_placed (l : Layout) : Places l.valuePairs l.placed := by
  refine ⟨?_, ?_, pairwise_placeFrom 0 l.fields, ?_⟩
  · rw [valuePairs_eq, placed]
    conv_rhs => rw [← map_field_placeFrom l.fields 0, List.map_map]
    rfl
  · intro i p hp
    rw [valuePairs_eq, ← List.map_take, sumBits_map, offset_of_getElem?_placeFrom hp, Nat.zero_add]
  · intro bit
    rw [placed, exists_mem_placeFrom_iff, sumBits_valuePairs, Nat.zero_add, width]
    omega

section Values

variable {v : Value} {pairs : List (Value × Value)} {width : Int} {container : String}

theorem build_eq_ok (hv : ListsPairs v pairs) {l : { l : Layout // (l.width : Int) ≤ width }}
    (h : build v width container = .ok l) : l.1.IsNamed ∧ l.1.valuePairs = pairs := by
  rw [build_of_listsPairs hv, bind_eq_ok] at h
  obtain ⟨l', hl', h⟩ := h
  rw [fit] at h
  split at h
  · cases h
    exact ofPairs_eq_ok_iff.1 hl'
  · cases h

theorem exists_build (hv : ListsPairs v pairs) (hruns : AreRuns pairs)
    (hroom : sumBits pairs ≤ width) : ∃ l, build v width container = .ok l := by
  obtain ⟨l, hl⟩ := exists_ofPairs_iff.2 hruns
  obtain ⟨-, rfl⟩ := ofPairs_eq_ok_iff.1 hl
  rw [sumBits_valuePairs] at hroom
  refine ⟨⟨l, hroom⟩, ?_⟩
  rw [build_of_listsPairs hv, hl, ok_bind, fit_of_le]

theorem build_too_wide (hv : ListsPairs v pairs) (hruns : AreRuns pairs)
    (hroom : width < sumBits pairs) : ∃ used : Nat, used = sumBits pairs ∧
      build v width container = .error (.layoutTooWide container used width) := by
  obtain ⟨l, hl⟩ := exists_ofPairs_iff.2 hruns
  obtain ⟨-, rfl⟩ := ofPairs_eq_ok_iff.1 hl
  rw [sumBits_valuePairs] at hroom ⊢
  refine ⟨l.width, rfl, ?_⟩
  rw [build_of_listsPairs hv, hl, ok_bind]
  exact dif_neg (Int.not_le.2 hroom)

theorem build_faulty (hv : ListsPairs v pairs) (hnot : ¬ AreRuns pairs) :
    ∃ front pair rest e, pairs = front ++ pair :: rest ∧ AreRuns front ∧ Fault front pair e ∧
      build v width container = .error e := by
  rcases ofPairs_cases pairs with ⟨l, hl, -⟩ | ⟨front, pair, rest, e, heq, he, hfront, hfault⟩
  · exact absurd (exists_ofPairs_iff.1 ⟨l, hl⟩) hnot
  · refine ⟨front, pair, rest, e, heq, hfront, hfault, ?_⟩
    rw [build_of_listsPairs hv, he]
    rfl

end Values

/-- A value is accepted as a layout exactly if its pairs are runs with room for all of them. The
first fault decides the error, however wide the runs are; without a fault there is too little room.
An error whose message has a number too long to be written is of another kind. -/
theorem build_places_runs {v : Value} {pairs : List (Value × Value)} (hv : ListsPairs v pairs)
    (width : Int) (container : String) :
    ((∃ l, build v width container = .ok l) ↔ AreRuns pairs ∧ sumBits pairs ≤ width) ∧
    (∀ l, build v width container = .ok l → Places pairs l.1.placed) ∧
    (¬ AreRuns pairs → ∃ front pair rest e, pairs = front ++ pair :: rest ∧ AreRuns front ∧
      Fault front pair e ∧ build v width container = .error e ∧
      e.kind = if e.isWritable then .definition else .badValue) ∧
    (AreRuns pairs → width < sumBits pairs → ∃ (used : Nat) (e : Error), used = sumBits pairs ∧
      e = .layoutTooWide container used width ∧ build v width container = .error e ∧
      e.kind = if Numeral.isWritable used && Numeral.isWritable width then .widthOverflow
        else .badValue) := by
  refine ⟨⟨?_, fun h ↦ exists_build hv h.1 h.2⟩, ?_, ?_, ?_⟩
  · rintro ⟨l, hl⟩
    obtain ⟨hnamed, rfl⟩ := build_eq_ok hv hl
    exact ⟨areRuns_valuePairs hnamed, l.1.sumBits_valuePairs ▸ l.2⟩
  · intro l hl
    obtain ⟨-, rfl⟩ := build_eq_ok hv hl
    exact l.1.places_placed
  · intro hnot
    obtain ⟨front, pair, rest, e, heq, hfront, hfault, he⟩ := build_faulty hv hnot
    refine ⟨front, pair, rest, e, heq, hfront, hfault, he, ?_⟩
    rw [Error.kind, hfault.causeKind_eq]
  · intro hruns hroom
    obtain ⟨used, hused, he⟩ := build_too_wide hv hruns hroom
    exact ⟨used, _, hused, rfl, he, rfl⟩

theorem build_places_runs_split :
    ListsPairs Bitfield.splitLayout.options Bitfield.splitLayout.valuePairs ∧
      ∃ l, build Bitfield.splitLayout.options 16 "Bitfield16" = .ok l ∧
        Places Bitfield.splitLayout.valuePairs l.1.placed := by
  have hnamed : Bitfield.splitLayout.IsNamed := by
    rw [IsNamed]
    decide +kernel
  have hpairs := Bitfield.splitLayout.listsPairs_options
  obtain ⟨haccepts, hplaces, -⟩ := build_places_runs hpairs 16 "Bitfield16"
  obtain ⟨l, hl⟩ := haccepts.2 ⟨areRuns_valuePairs hnamed, by decide⟩
  exact ⟨hpairs, l, hl, hplaces l hl⟩

theorem overlong_pos : 0 < 9 * 10 ^ (4299 : Nat) := by
  decide +kernel

def overlongLayout : Layout :=
  ⟨[⟨"a", _, overlong_pos⟩, ⟨"b", _, overlong_pos⟩], by decide⟩

theorem build_overlong : ListsPairs overlongLayout.options overlongLayout.valuePairs ∧
    AreRuns overlongLayout.valuePairs ∧ 8 < sumBits overlongLayout.valuePairs ∧ ∃ e,
      build overlongLayout.options 8 "Bitfield" = .error e ∧ e.kind ≠ .widthOverflow := by
  have hnamed : overlongLayout.IsNamed := by
    rw [IsNamed]
    decide +kernel
  have hroom : 8 < sumBits overlongLayout.valuePairs := by
    decide +kernel
  have hpairs := overlongLayout.listsPairs_options
  have hruns := areRuns_valuePairs hnamed
  obtain ⟨used, hused, he⟩ := build_too_wide hpairs hruns hroom
  refine ⟨hpairs, hruns, hroom, _, he, ?_⟩
  have hlong : Numeral.isWritable used = false := by
    rw [hused]
    decide +kernel
  have hwritable : (Error.layoutTooWide "Bitfield" used 8).isWritable = false := by
    rw [Error.isWritable, hlong, Bool.false_and]
  rw [Error.kind, hwritable]
  intro h
  cases h

end Layout

end RecordCodec
