import RecordCodec.Proofs.Codec.Iteration
import RecordCodec.Proofs.Codec.Placement
import RecordCodec.Proofs.Dataclass.Names
import RecordCodec.Proofs.Dataclass.Sizes

namespace RecordCodec

open Registry

namespace Dataclass

def KeepsApart (rename : String → String) (names : List String) : Prop :=
  ∀ first ∈ names, ∀ second ∈ names, rename first = rename second → first = second

def other? (rename : String → String) (seen : List String) (name : String) : Option String :=
  seen.find? fun other ↦ rename other == rename name && other != name

section Search

variable {rename : String → String} {seen names : List String} {name first second : String}

theorem KeepsApart.nil (rename : String → String) : KeepsApart rename [] :=
  fun _ h ↦ absurd h List.not_mem_nil

theorem KeepsApart.nodup (h : KeepsApart rename names) (hnames : names.Nodup) :
    (names.map rename).Nodup :=
  hnames.map_on h

theorem firstClash?_cons (rest : List String) : firstClash? rename seen (name :: rest) =
    match other? rename seen name with
    | some other => some (other, name)
    | none => firstClash? rename (seen ++ [name]) rest :=
  rfl

theorem of_other?_eq_some (h : other? rename seen name = some first) :
    first ∈ seen ∧ first ≠ name ∧ rename first = rename name := by
  have hsome := List.find?_some h
  rw [Bool.and_eq_true, beq_iff_eq, bne_iff_ne] at hsome
  exact ⟨List.mem_of_find?_eq_some h, hsome.2, hsome.1⟩

theorem KeepsApart.concat (h : KeepsApart rename seen) (hname : other? rename seen name = none) :
    KeepsApart rename (seen ++ [name]) := by
  have hnew : ∀ other ∈ seen, rename other = rename name → other = name := by
    intro other hother hsame
    have hnone := List.find?_eq_none.1 hname other hother
    rw [Bool.and_eq_true, beq_iff_eq, bne_iff_ne, not_and, not_not] at hnone
    exact hnone hsame
  intro first hfirst second hsecond hsame
  rw [List.mem_append, List.mem_singleton] at hfirst hsecond
  rcases hfirst with hfirst | rfl <;> rcases hsecond with hsecond | rfl
  · exact h first hfirst second hsecond hsame
  · exact hnew first hfirst hsame
  · exact (hnew second hsecond hsame.symm).symm
  · rfl

theorem KeepsApart.of_firstClash? (h : KeepsApart rename seen)
    (hnone : firstClash? rename seen names = none) : KeepsApart rename (seen ++ names) := by
  induction names generalizing seen with
  | nil => rwa [List.append_nil]
  | cons name rest ih =>
    rw [firstClash?_cons] at hnone
    split at hnone
    · cases hnone
    · rename_i hname
      rw [List.append_cons]
      exact ih (h.concat hname) hnone

theorem of_firstClash?_eq_some (h : firstClash? rename seen names = some (first, second)) :
    first ∈ seen ++ names ∧ second ∈ names ∧ first ≠ second ∧ rename first = rename second := by
  induction names generalizing seen with
  | nil => cases h
  | cons name rest ih =>
    rw [firstClash?_cons] at h
    split at h
    · rename_i hname
      cases h
      obtain ⟨hfirst, hne, hsame⟩ := of_other?_eq_some hname
      exact ⟨List.mem_append_left _ hfirst, List.mem_cons_self, hne, hsame⟩
    · obtain ⟨hfirst, hsecond, hne, hsame⟩ := ih h
      rw [← List.append_cons] at hfirst
      exact ⟨hfirst, List.mem_cons_of_mem _ hsecond, hne, hsame⟩

end Search

section Check

variable {seen : List String} {found : List Placement} {e : Error}

theorem checkNames_cons (p : Placement) (rest : List Placement) : checkNames seen (p :: rest) =
    match other? className seen p.name with
    | some other => .error (.classClash other p.name (className p.name))
    | none =>
      match firstClash? attributeName [] (p.slots.map Slot.name) with
      | some (first, second) =>
        .error (.attributeClash first second p.name (attributeName second))
      | none => checkNames (seen ++ [p.name]) rest :=
  rfl

theorem keepsApart_of_checkNames (hseen : KeepsApart className seen)
    (h : checkNames seen found = .ok ()) :
    KeepsApart className (seen ++ found.map Placement.name) ∧
      ∀ p ∈ found, KeepsApart attributeName (p.slots.map Slot.name) := by
  -- what has been seen keeps apart, with the name that has just been let through as well
  induction found generalizing seen with
  | nil => simpa using hseen
  | cons p rest ih =>
    rw [checkNames_cons] at h
    split at h
    · cases h
    · rename_i hclass
      split at h
      · cases h
      · rename_i hattributes
        obtain ⟨hclasses, hrest⟩ := ih (hseen.concat hclass) h
        rw [List.map_cons, List.append_cons]
        exact ⟨hclasses, List.forall_mem_cons.2 ⟨KeepsApart.of_firstClash? (.nil _) hattributes,
          hrest⟩⟩

theorem of_checkNames_eq_error (h : checkNames seen found = .error e) :
    (∃ first ∈ seen ++ found.map Placement.name, ∃ p ∈ found, first ≠ p.name ∧
      className first = className p.name ∧ e = .classClash first p.name (className p.name)) ∨
    ∃ p ∈ found, ∃ first ∈ p.slots.map Slot.name, ∃ second ∈ p.slots.map Slot.name,
      first ≠ second ∧ attributeName first = attributeName second ∧
      e = .attributeClash first second p.name (attributeName second) := by
  induction found generalizing seen with
  | nil => cases h
  | cons p rest ih =>
    rw [checkNames_cons] at h
    split at h
    · rename_i hclass
      cases h
      obtain ⟨hfirst, hne, hsame⟩ := of_other?_eq_some hclass
      exact .inl ⟨_, List.mem_append_left _ hfirst, p, List.mem_cons_self, hne, hsame, rfl⟩
    · split at h
      · rename_i hattributes
        cases h
        obtain ⟨hfirst, hsecond, hne, hsame⟩ := of_firstClash?_eq_some hattributes
        exact .inr ⟨p, List.mem_cons_self, _, hfirst, _, hsecond, hne, hsame, rfl⟩
      · rw [List.map_cons, List.append_cons]
        rcases ih h with ⟨first, hfirst, q, hq, hclash⟩ | ⟨q, hq, hclash⟩
        · exact .inl ⟨first, hfirst, q, List.mem_cons_of_mem _ hq, hclash⟩
        · exact .inr ⟨q, List.mem_cons_of_mem _ hq, hclash⟩

end Check

/-- What generated code cannot hold: two classes of one name, or two attributes in one class. -/
inductive Clash (reg : Registry) (r : RecordType) : Error → Prop
  | classes {s t : RecordType} (hs : reg.Reaches r s) (ht : reg.Reaches r t) (hne : s ≠ t)
    (hsame : className s.name = className t.name) :
    Clash reg r (.classClash s.name t.name (className t.name))
  | attributes {t : RecordType} {m n : Member} (ht : reg.Reaches r t) (hm : m ∈ t.members)
    (hn : n ∈ t.members) (hne : m ≠ n) (hsame : attributeName m.name = attributeName n.name) :
    Clash reg r (.attributeClash m.name n.name t.name (attributeName n.name))

section Reached

variable {reg : Registry} {r : RecordType} {records : List RecordType} {e : Error}

theorem Clash.kind_eq (h : Clash reg r e) : e.kind = .definition := by
  cases h <;> rfl

theorem slotNames_ofRecord (t : RecordType) :
    (Placement.ofRecord t).slots.map Slot.name = t.members.map Member.name :=
  names_slotsFrom 0 t.members

theorem names_placements : (placements records).map Placement.name = records.map RecordType.name :=
  List.map_map

theorem clash_of_checkNames (hreaches : ∀ t ∈ records, reg.Reaches r t)
    (h : checkNames [] (placements records) = .error e) : Clash reg r e := by
  rcases of_checkNames_eq_error h with ⟨first, hfirst, p, hp, hne, hsame, rfl⟩ |
    ⟨p, hp, first, hfirst, second, hsecond, hne, hsame, rfl⟩
  · rw [List.nil_append, names_placements] at hfirst
    obtain ⟨s, hs, rfl⟩ := List.mem_map.1 hfirst
    obtain ⟨t, ht, rfl⟩ := List.mem_map.1 hp
    exact .classes (hreaches s hs) (hreaches t ht) (fun he ↦ hne (congrArg _ he)) hsame
  · obtain ⟨t, ht, rfl⟩ := List.mem_map.1 hp
    rw [slotNames_ofRecord] at hfirst hsecond
    obtain ⟨m, hm, rfl⟩ := List.mem_map.1 hfirst
    obtain ⟨n, hn, rfl⟩ := List.mem_map.1 hsecond
    exact .attributes (hreaches t ht) hm hn (fun he ↦ hne (congrArg _ he)) hsame

theorem not_clash_of_checkNames (hreg : reg.WellFormed) (hr : r ∈ reg.records)
    (hreaches : ∀ t, reg.Reaches r t → t ∈ records)
    (h : checkNames [] (placements records) = .ok ()) : ¬ Clash reg r e := by
  obtain ⟨hclasses, hattributes⟩ := keepsApart_of_checkNames (.nil _) h
  rw [List.nil_append, names_placements] at hclasses
  rintro (⟨hs, ht, hne, hsame⟩ | ⟨ht, hm, hn, hne, hsame⟩)
  -- record types of one name are one, and so are members of one name in a record type
  · have hname := hclasses _ (List.mem_map_of_mem (hreaches _ hs)) _
      (List.mem_map_of_mem (hreaches _ ht)) hsame
    exact hne (hreg.eq_of_name_eq (hreg.rank_le_of_reaches hr ht).1
      (hreg.rank_le_of_reaches hr hs).1 hname)
  · rename_i t m n
    have hapart := hattributes _ (List.mem_map_of_mem (hreaches t ht))
    rw [slotNames_ofRecord] at hapart
    have hname := hapart _ (List.mem_map_of_mem hm) _ (List.mem_map_of_mem hn) hsame
    exact hne (List.inj_on_of_nodup_map t.nodup hm hn hname)

end Reached

section Ends

variable {reg : Registry} {r : RecordType} {records : List RecordType}

/-- A clash comes first, then a size that is too long to write. -/
inductive Rendered (reg : Registry) (r : RecordType) (runtime : String) :
    Except Error String → Prop
  | clash {e : Error} (h : Clash reg r e) : Rendered reg r runtime (.error e)
  | tooLong (hnot : ¬ ∃ e, Clash reg r e) (hwide : (Numeral.unwritableFrom : Int) ≤ r.size) :
    Rendered reg r runtime (.error .numberTooLong)
  | written {records : List RecordType} (hnot : ¬ ∃ e, Clash reg r e)
    (hsize : r.size < Numeral.unwritableFrom) (hreaches : ∀ t, t ∈ records ↔ reg.Reaches r t)
    (hnames : (records.map RecordType.name).Nodup)
    (hcheck : checkNames [] (placements records) = .ok ()) :
    Rendered reg r runtime (.ok (unlines (moduleHead r.name runtime ++
      (placements records).flatMap (classLines (placements records)))))

theorem rendered (h : reg.WellFormed) (hr : r ∈ reg.records) (runtime : String) :
    Rendered reg r runtime (render reg r runtime) := by
  obtain ⟨records, hcollect, horder, hreaches, -⟩ := exists_collect h hr
  have hsize := isWritable_iff (h.record_size_pos hr)
  rw [render_of_collect runtime hcollect, all_isWritable h hr hreaches]
  cases hcheck : checkNames [] (placements records) with
  | error e => exact .clash (clash_of_checkNames (fun t ↦ (hreaches t).1) hcheck)
  | ok _ =>
    have hnot : ¬ ∃ e, Clash reg r e := fun ⟨e, hclash⟩ ↦
      not_clash_of_checkNames h hr (fun t ↦ (hreaches t).2) hcheck hclash
    rw [ok_bind]
    split
    · rename_i hwritable
      exact .written hnot (hsize.1 hwritable) hreaches (horder.nodup_names h) hcheck
    · rename_i hwritable
      exact .tooLong hnot (Int.not_lt.1 fun hlt ↦ hwritable (hsize.2 hlt))

theorem Rendered.eq_tooLong {result : Except Error String} {runtime : String}
    (h : Rendered reg r runtime result) (hnot : ¬ ∃ e, Clash reg r e)
    (hwide : (Numeral.unwritableFrom : Int) ≤ r.size) : result = .error .numberTooLong := by
  cases h with
  | clash hclash => exact absurd ⟨_, hclash⟩ hnot
  | tooLong _ _ => rfl
  | written _ hsize => exact absurd hwide (Int.not_le.2 hsize)

theorem attributeLines_classLines (found : List Placement) (p : Placement) :
    p.slots.map (attributeLine found) <:+: classLines found p := by
  refine ⟨classHead p, readMethod found p ++ [""] ++ writeMethod found p, ?_⟩
  rw [classLines]
  simp only [List.append_assoc]

theorem apart_of_checkNames (hnames : (records.map RecordType.name).Nodup)
    (h : checkNames [] (placements records) = .ok ()) :
    ((placements records).map (className ·.name)).Nodup ∧
      ∀ p ∈ placements records, (p.slots.map (attributeName ·.name)).Nodup := by
  obtain ⟨hclasses, hattributes⟩ := keepsApart_of_checkNames (.nil _) h
  rw [List.nil_append] at hclasses
  constructor
  · rw [← names_placements] at hnames
    have hnodup := hclasses.nodup hnames
    rwa [List.map_map] at hnodup
  · intro p hp
    have hapart := hattributes p hp
    obtain ⟨t, -, rfl⟩ := List.mem_map.1 hp
    have hnodup := hapart.nodup (by rw [slotNames_ofRecord]; exact t.nodup)
    rwa [List.map_map] at hnodup

theorem isAttribute_of_mem_slots (hnames : reg.HasNames) (hr : r ∈ reg.records) {s : Slot}
    (hs : s ∈ (Placement.ofRecord r).slots) : IsAttribute (attributeName s.name) := by
  have hname := List.mem_map_of_mem (f := Slot.name) hs
  rw [slotNames_ofRecord] at hname
  obtain ⟨m, hm, hname⟩ := List.mem_map.1 hname
  rw [← hname]
  exact isAttribute_attributeName (hnames r hr m hm).2

end Ends

/-- Generating code fails for a clash if there is one, else for a size that is too long to write,
and for nothing else. What is generated keeps classes and attributes apart, and its attributes are
free to use. -/
theorem render_keeps_names_apart (schemas : List (String × String)) {record : String}
    {r : RecordType} (hr : (standard.attemptAll schemas).find? record = some (.record r))
    (runtime : String) :
    ((∃ e, render (standard.attemptAll schemas) r runtime = .error e ∧ e.kind = .definition) ↔
      ∃ e, Clash (standard.attemptAll schemas) r e) ∧
    (∀ e, render (standard.attemptAll schemas) r runtime = .error e →
      Clash (standard.attemptAll schemas) r e ∨ e = .numberTooLong) ∧
    (render (standard.attemptAll schemas) r runtime = .error .numberTooLong ↔
      (¬ ∃ e, Clash (standard.attemptAll schemas) r e) ∧
        (Numeral.unwritableFrom : Int) ≤ r.size) ∧
    ∀ text, render (standard.attemptAll schemas) r runtime = .ok text → ∃ records,
      (∀ t, t ∈ records ↔ (standard.attemptAll schemas).Reaches r t) ∧
      text = unlines (moduleHead r.name runtime ++
        (placements records).flatMap (classLines (placements records))) ∧
      ((placements records).map (className ·.name)).Nodup ∧
      ∀ p ∈ placements records,
        "class " ++ className p.name ++ ":" ∈ classLines (placements records) p ∧
        p.slots.map (attributeLine (placements records)) <:+: classLines (placements records) p ∧
        (p.slots.map (attributeName ·.name)).Nodup ∧
        ∀ s ∈ p.slots, IsAttribute (attributeName s.name) := by
  have hreg := wellFormed_attemptAll schemas
  have hnames := hasNames_attemptAll schemas
  obtain ⟨hmem, -⟩ := hreg.mem_records hr
  generalize standard.attemptAll schemas = reg at *
  have hrendered := rendered hreg hmem runtime
  generalize render reg r runtime = result at hrendered ⊢
  cases hrendered with
  | clash hclash =>
    refine ⟨⟨fun _ ↦ ⟨_, hclash⟩, fun _ ↦ ⟨_, rfl, hclash.kind_eq⟩⟩, fun e he ↦ ?_,
      ⟨fun he ↦ ?_, fun h ↦ absurd ⟨_, hclash⟩ h.1⟩, nofun⟩
    · cases he
      exact .inl hclash
    · cases he
      cases hclash
  | tooLong hnot hwide =>
    refine ⟨⟨?_, fun hclash ↦ absurd hclash hnot⟩, fun e he ↦ ?_,
      ⟨fun _ ↦ ⟨hnot, hwide⟩, fun _ ↦ rfl⟩, nofun⟩
    · rintro ⟨e, he, hkind⟩
      cases he
      cases hkind
    · cases he
      exact .inr rfl
  | @written records hnot hsize hreaches hnodup hcheck =>
    refine ⟨⟨nofun, fun hclash ↦ absurd hclash hnot⟩, nofun,
      ⟨nofun, fun h ↦ absurd h.2 (Int.not_le.2 hsize)⟩, ?_⟩
    intro text htext
    cases htext
    obtain ⟨hclasses, hattributes⟩ := apart_of_checkNames hnodup hcheck
    refine ⟨records, hreaches, rfl, hclasses, fun p hp ↦ ⟨classLine_mem_classLines _ p,
      attributeLines_classLines _ p, hattributes p hp, ?_⟩⟩
    obtain ⟨t, ht, rfl⟩ := List.mem_map.1 hp
    have hmem := (hreg.rank_le_of_reaches hmem ((hreaches t).1 ht)).1
    exact fun s hs ↦ isAttribute_of_mem_slots hnames hmem hs

def clashingSchemas : List (String × String) :=
  [("u8 x", "my_struct"), ("my_struct inner\nu8 #pad", "my-struct")]

def findsClassClash (first second name : String) (found : List Placement) : Bool :=
  match checkNames [] found with
  | .error (.classClash first' second' name') => (first', second', name') == (first, second, name)
  | _ => false

theorem checkNames_of_findsClassClash {first second name : String} {found : List Placement}
    (h : findsClassClash first second name found = true) :
    checkNames [] found = .error (.classClash first second name) := by
  rw [findsClassClash] at h
  split at h
  · rename_i hcheck
    cases beq_iff_eq.1 h
    exact hcheck
  · cases h

theorem render_keeps_names_apart_clash : ∃ r : RecordType,
    (standard.attemptAll clashingSchemas).find? "my-struct" = some (.record r) ∧
    Clash (standard.attemptAll clashingSchemas) r
      (.classClash "my_struct" "my-struct" "my_struct") ∧
    render (standard.attemptAll clashingSchemas) r defaultRuntime =
      .error (.classClash "my_struct" "my-struct" "my_struct") := by
  have h : ((standard.attemptAll clashingSchemas).find? "my-struct").any
      (collects (standard.attemptAll clashingSchemas)
        (findsClassClash "my_struct" "my-struct" "my_struct")) = true := by
    decide +kernel
  obtain ⟨r, found, hr, hfound, hclash⟩ := exists_of_collects h
  have hrender := render_of_collect defaultRuntime hfound
  rw [checkNames_of_findsClassClash hclash] at hrender
  obtain ⟨-, herror, -⟩ := render_keeps_names_apart clashingSchemas hr defaultRuntime
  rcases herror _ hrender with hclash | hlong
  · exact ⟨r, hr, hclash, hrender⟩
  · cases hlong

theorem compile_of_find? {text name : String} {r : RecordType} (habsent : name ∉ standard.names)
    (h : (standard.attemptAll [(text, name)]).find? name = some (.record r)) :
    standard.compile text name = .ok (r, standard.attemptAll [(text, name)]) := by
  have hattempt : standard.attemptAll [(text, name)] = standard.attempt (text, name) := rfl
  rw [hattempt, attempt] at h ⊢
  cases hcompile : standard.compile text name with
  | error e =>
    rw [hcompile] at h
    exact absurd (mem_names_of_find? h) habsent
  | ok compiled =>
    obtain ⟨t, grown⟩ := compiled
    rw [hcompile] at h
    obtain ⟨-, hname, hentries, -⟩ := compile_eq_ok hcompile
    have hmem : t ∈ grown.records := by
      rw [records_of_added hentries]
      exact List.mem_append_right _ List.mem_cons_self
    have hfind := (wellFormed_standard.compile hcompile).find?_record hmem
    rw [hname] at hfind
    cases hfind.symm.trans h
    rfl

theorem not_clash_of_singleton {reg : Registry} {r : RecordType} {m : Member} {e : Error}
    (hreg : reg.WellFormed) (hr : reg.records = [r]) (hm : r.members = [m]) :
    ¬ Clash reg r e := by
  have hmem : r ∈ reg.records := by
    rw [hr]
    exact List.mem_cons_self
  have hall {t : RecordType} (ht : reg.Reaches r t) : t = r := by
    have ht := (hreg.rank_le_of_reaches hmem ht).1
    rwa [hr, List.mem_singleton] at ht
  rintro (⟨hs, ht, hne, -⟩ | ⟨ht, hm₁, hm₂, hne, -⟩)
  · exact hne ((hall hs).trans (hall ht).symm)
  · rw [hall ht, hm, List.mem_singleton] at hm₁ hm₂
    exact hne (hm₁.trans hm₂.symm)

theorem exists_wide : ∃ (r : RecordType) (m : Member),
    let reg := standard.attemptAll [(String.ofList (Stream.arrayLine Stream.nines), "Wide")]
    reg.find? "Wide" = some (.record r) ∧ reg.records = [r] ∧ r.members = [m] ∧
      (Numeral.unwritableFrom : Int) ≤ r.size := by
  have hvalue := Stream.valueOf_nines
  have hlarge : 1 < Numeral.unwritableFrom := by decide +kernel
  obtain ⟨r, hr, hsize⟩ := Stream.exists_arrayType Stream.isNumeral_nines
    List.length_replicate.le (by omega)
  have hcompile := compile_of_find? (by decide) hr
  obtain ⟨-, -, hentries, declarations, hparse, -, hmembers⟩ := compile_eq_ok hcompile
  have hdeclarations := Schema.parse_eq_ok_iff.1 hparse
  rw [Schema.LinesDeclare, Stream.filledLines_arrayLine Stream.isNumeral_nines] at hdeclarations
  have hlength := hdeclarations.length_eq.trans hmembers.length_eq
  obtain ⟨m, hm⟩ := List.length_eq_one_iff.1 hlength.symm
  exact ⟨r, m, hr, records_of_added hentries, hm, by omega⟩

/-- A size with too many digits is no clash, and generating code fails all the same. -/
theorem render_wide : ∃ r : RecordType,
    let reg := standard.attemptAll [(String.ofList (Stream.arrayLine Stream.nines), "Wide")]
    reg.find? "Wide" = some (.record r) ∧ (¬ ∃ e, Clash reg r e) ∧
      ∃ e, render reg r defaultRuntime = .error e ∧ e.kind ≠ .definition := by
  obtain ⟨r, m, hr, hrecords, hm, hwide⟩ := exists_wide
  have hreg := wellFormed_attemptAll [(String.ofList (Stream.arrayLine Stream.nines), "Wide")]
  have hnot : ¬ ∃ e, Clash _ r e := fun ⟨_, hclash⟩ ↦ not_clash_of_singleton hreg hrecords hm hclash
  have hrendered := rendered hreg (hreg.mem_records hr).1 defaultRuntime
  exact ⟨r, hr, hnot, .numberTooLong, hrendered.eq_tooLong hnot hwide, nofun⟩

end Dataclass

end RecordCodec
