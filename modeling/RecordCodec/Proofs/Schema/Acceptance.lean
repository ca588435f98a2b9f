import RecordCodec.Proofs.Leaf.Errors
import RecordCodec.Proofs.Registry.InPlace
import RecordCodec.Proofs.Schema.Declaration

namespace RecordCodec

namespace Layout

theorem totalWidth_eq (fields : List SubField) :
    totalWidth fields = (fields.map SubField.width).sum := by
  induction fields with
  | nil => rfl
  | cons f rest ih => rw [totalWidth, ih, List.map_cons, List.sum_cons]

end Layout

theorem Container.ofName?_name (c : Container) : ofName? c.name = some c := by
  cases c <;> decide

namespace Schema

open Registry

def RunSpec.pair (run : RunSpec) : Value × Value :=
  (.text run.name, .int run.width)

def RunSpec.entry (run : RunSpec) : String × Int :=
  (run.name, run.width)

/-- What a run list has to satisfy to divide a container. -/
structure Divides (runs : List RunSpec) (c : Container) : Prop where
  width_pos : ∀ run ∈ runs, 0 < run.width
  nodup : (runs.map RunSpec.name).Nodup
  sum_le : (runs.map RunSpec.width).sum ≤ c.width

section Layouts

variable {runs : List RunSpec} {l : Layout}

theorem ofPairs_eq_ok (h : Layout.ofPairs (runs.map RunSpec.pair) = .ok l) :
    (∀ run ∈ runs, 0 < run.width) ∧ l.pairs = runs.map RunSpec.entry := by
  have hwidths := (Layout.exists_ofPairs_iff.1 ⟨l, h⟩).widths
  refine ⟨fun run hrun ↦ ?_, ?_⟩
  · obtain ⟨n, hn, hpos⟩ := hwidths _ (List.mem_map_of_mem hrun)
    cases hn
    exact Int.natCast_pos.1 hpos
  · apply Layout.pairs_of_valuePairs
    rw [(Layout.ofPairs_eq_ok_iff.1 h).2, List.map_map]
    rfl

theorem exists_ofPairs (hmark : ∀ run ∈ runs, Layout.isBareMark run.name = false)
    (hpos : ∀ run ∈ runs, 0 < run.width) (hnodup : (runs.map RunSpec.name).Nodup) :
    ∃ l, Layout.ofPairs (runs.map RunSpec.pair) = .ok l := by
  rw [Layout.exists_ofPairs_iff]
  have hruns : Layout.AreRuns ((runs.map RunSpec.entry).map fun entry ↦
      (.text entry.1, .int entry.2)) := by
    refine Layout.areRuns_of_entries ?_ ?_ ?_
    · rw [List.forall_mem_map]
      exact hmark
    · rw [List.map_map]
      exact hnodup
    · rw [List.forall_mem_map]
      exact fun run hrun ↦ Int.natCast_pos.2 (hpos run hrun)
  rwa [List.map_map] at hruns

theorem width_of_pairs (h : l.pairs = runs.map RunSpec.entry) :
    l.width = (runs.map RunSpec.width).sum := by
  have hwidths := congrArg (List.map fun entry ↦ entry.2.toNat) h
  rw [Layout.pairs, List.map_map, List.map_map] at hwidths
  rw [Layout.width, Layout.totalWidth_eq]
  exact congrArg List.sum hwidths

end Layouts

namespace Declaration

def IsRead (d : Declaration) : Prop :=
  ∀ runs ∈ d.runs, (∃ c, Container.ofName? d.typeName = some c) ∧
    ∀ run ∈ runs, Layout.isBareMark run.name = false

/-- What a registry has to know for a declaration to become a member. -/
structure Fits (reg : Registry) (d : Declaration) : Prop where
  known : d.typeName ∈ reg.names
  not_string : d.typeName ≠ Scalar.string.name
  divides : ∀ runs ∈ d.runs, ∀ c, Container.ofName? d.typeName = some c → Divides runs c

/-- What a member takes over from its declaration and from the registry. -/
structure Declares (reg : Registry) (d : Declaration) (m : Member) : Prop where
  typeName : m.typeName = d.typeName
  name : m.name = d.name
  count : m.count = d.count
  runs : m.runs = d.runs.map (List.map RunSpec.entry)
  sized : ∃ descriptor, reg.find? d.typeName = some descriptor ∧
    descriptor.size? = some m.elementSize

variable {reg : Registry} {d : Declaration} {m : Member} {text : String} {line : Int}

theorem isBareMark_of_isName {name : List Char} (h : IsName name) :
    Layout.isBareMark (String.ofList name) = false := by
  have hidentifier {text : List Char} (h : IsIdentifier text) : text.all (· == '#') = false := by
    obtain ⟨hc, -⟩ := h
    rw [List.all_cons, Bool.and_eq_false_iff, beq_eq_false_iff_ne]
    left
    rintro rfl
    cases hc
  rw [Layout.isBareMark, String.toList_ofList]
  cases h with
  | plain h => exact hidentifier h
  | marked h => rw [List.all_cons, hidentifier h, Bool.and_false]

theorem isRead_of_ofLine (h : ofLine text line = .ok d) : d.IsRead := by
  obtain ⟨-, -, parts, shape, -, hmeans, -, hholds⟩ := ofLine_eq_ok_iff.1 h
  intro runs hruns
  rw [Option.mem_def, hholds.runs] at hruns
  rw [hholds.typeName]
  cases hmeans with
  | single => cases hruns
  | array => cases hruns
  | @divided c parts name hne hparts hname =>
    cases hruns
    refine ⟨⟨c, c.ofName?_name⟩, fun run hrun ↦ ?_⟩
    obtain ⟨part, hpart, rfl⟩ := List.mem_map.1 hrun
    exact isBareMark_of_isName (hparts part hpart).1

theorem layoutOf_runs_eq_ok {runs : List RunSpec} {l : Layout}
    (h : d.layoutOf (runs.map RunSpec.pair) = .ok l) :
    l.pairs = runs.map RunSpec.entry ∧
      ∃ c, Container.ofName? d.typeName = some c ∧ Divides runs c := by
  obtain ⟨c, hc, hl, hwidth⟩ := layoutOf_eq_ok_iff.1 h
  obtain ⟨hpos, hpairs⟩ := ofPairs_eq_ok hl
  refine ⟨hpairs, c, hc, hpos, ?_, width_of_pairs hpairs ▸ hwidth⟩
  have := l.pairs_nodup
  rwa [hpairs, List.map_map] at this

theorem exists_layoutOf_runs {runs : List RunSpec} {c : Container}
    (hmark : ∀ run ∈ runs, Layout.isBareMark run.name = false)
    (hc : Container.ofName? d.typeName = some c) (h : Divides runs c) :
    ∃ l, d.layoutOf (runs.map RunSpec.pair) = .ok l := by
  obtain ⟨l, hl⟩ := exists_ofPairs hmark h.width_pos h.nodup
  obtain ⟨-, hpairs⟩ := ofPairs_eq_ok hl
  exact ⟨l, layoutOf_eq_ok_iff.2 ⟨c, hc, hl, width_of_pairs hpairs ▸ h.sum_le⟩⟩

theorem runPairs_eq (d : Declaration) : d.runPairs = d.runs.map (List.map RunSpec.pair) :=
  rfl

theorem declares_of_member (h : d.member reg = .ok m) : Declares reg d m ∧ Fits reg d := by
  obtain ⟨hstring, descriptor, size, layout, hd, hsize, hl, rfl⟩ := member_eq_ok_iff.1 h
  have hknown := mem_names_of_find? hd
  rw [runPairs_eq] at hl
  cases hruns : d.runs with
  | none =>
    rw [hruns] at hl
    cases hl
    exact ⟨⟨rfl, rfl, rfl, by rw [hruns]; rfl, descriptor, hd, hsize⟩, hknown, hstring,
      by simp [hruns]⟩
  | some runs =>
    rw [hruns] at hl
    obtain ⟨l, hlayout, hl⟩ := map_eq_ok.1 hl
    cases hl
    obtain ⟨hpairs, c, hc, hdivides⟩ := layoutOf_runs_eq_ok hlayout
    refine ⟨⟨rfl, rfl, rfl, by rw [hruns]; exact congrArg some hpairs, descriptor, hd, hsize⟩,
      hknown, hstring, fun own hown c' hc' ↦ ?_⟩
    cases hruns.symm.trans hown
    cases hc.symm.trans hc'
    exact hdivides

theorem exists_sized {name : String} (hreg : reg.WellFormed) (hknown : name ∈ reg.names)
    (hstring : name ≠ Scalar.string.name) :
    ∃ descriptor size, reg.find? name = some descriptor ∧ descriptor.size? = some size := by
  obtain ⟨⟨own, descriptor⟩, hmem, rfl⟩ := List.mem_map.1 hknown
  have hfind : reg.find? own = some descriptor := lookup_of_mem hreg.nodup hmem
  rcases hreg.find?_cases hfind with ⟨s, -, rfl, rfl⟩ | ⟨r, -, -, rfl⟩
  · cases s with
    | leaf l => exact ⟨_, l.size, hfind, rfl⟩
    | string => contradiction
  · exact ⟨_, r.size, hfind, rfl⟩

theorem exists_member (hreg : reg.WellFormed) (hread : d.IsRead) (h : Fits reg d) :
    ∃ m, d.member reg = .ok m := by
  obtain ⟨descriptor, size, hd, hsize⟩ := exists_sized hreg h.known h.not_string
  have hlayout : ∃ layout, d.runPairs.mapM d.layoutOf = .ok layout := by
    rw [runPairs_eq]
    cases hruns : d.runs with
    | none => exact ⟨none, rfl⟩
    | some runs =>
      obtain ⟨⟨c, hc⟩, hmark⟩ := hread runs hruns
      obtain ⟨l, hl⟩ := exists_layoutOf_runs hmark hc (h.divides runs hruns c hc)
      exact ⟨some l, map_eq_ok.2 ⟨l, hl, rfl⟩⟩
  obtain ⟨layout, hlayout⟩ := hlayout
  exact ⟨_, member_eq_ok_iff.2 ⟨h.not_string, descriptor, size, layout, hd, hsize, hlayout, rfl⟩⟩

theorem exists_membersOf (record : String) {seen : List String} {declarations : List Declaration}
    (hmembers : ∀ d ∈ declarations, ∃ m, d.member reg = .ok m)
    (hnodup : (declarations.map Declaration.name).Nodup)
    (hseen : ∀ d ∈ declarations, d.name ∉ seen) :
    ∃ members, membersOf reg record seen declarations = .ok members := by
  induction declarations generalizing seen with
  | nil => exact ⟨[], rfl⟩
  | cons d rest ih =>
    obtain ⟨⟨m, hm⟩, hmembers⟩ := List.forall_mem_cons.1 hmembers
    obtain ⟨hd, hseen⟩ := List.forall_mem_cons.1 hseen
    obtain ⟨hname, hnodup⟩ := List.nodup_cons.1 hnodup
    have hrest : ∀ d' ∈ rest, d'.name ∉ d.name :: seen := fun d' hd' ↦ by
      rw [List.mem_cons, not_or]
      exact ⟨fun he ↦ hname (he ▸ List.mem_map_of_mem hd'), hseen d' hd'⟩
    obtain ⟨members, hrest⟩ := ih hmembers hnodup hrest
    refine ⟨m :: members, ?_⟩
    rw [membersOf, if_neg hd, hm, ok_bind, hrest]
    rfl

end Declaration

def filledLines (text : String) : List (List Char × Nat) :=
  ((lines text).zipIdx 1).filter fun l ↦ !l.1.isEmpty

/-- Whether the filled lines of a schema are these declarations, one by one. -/
def LinesDeclare (text : String) (declarations : List Declaration) : Prop :=
  (filledLines text).Forall₂ (fun l d ↦ Declaration.ofLine (String.ofList l.1) l.2 = .ok d)
    declarations

theorem declarationsFrom_eq_ok_iff {line : Nat} {texts : List (List Char)}
    {declarations : List Declaration} : declarationsFrom line texts = .ok declarations ↔
      ((texts.zipIdx line).filter fun l ↦ !l.1.isEmpty).Forall₂
        (fun l d ↦ Declaration.ofLine (String.ofList l.1) l.2 = .ok d) declarations := by
  induction texts generalizing line declarations with
  | nil => simp [declarationsFrom, eq_comm]
  | cons text rest ih =>
    rw [declarationsFrom, List.zipIdx_cons]
    by_cases hempty : text.isEmpty = true
    · rw [if_pos hempty, List.filter_cons_of_neg (by simpa using hempty), ih]
    -- blank lines are counted as well, so the number goes up with every line
    rw [if_neg hempty, List.filter_cons_of_pos (by simpa using hempty), List.forall₂_cons_left_iff,
      bind_eq_ok]
    constructor
    · rintro ⟨d, hd, h⟩
      obtain ⟨ds, hds, h⟩ := bind_eq_ok.1 h
      cases h
      exact ⟨d, ds, hd, ih.1 hds, rfl⟩
    · rintro ⟨d, ds, hd, hds, rfl⟩
      refine ⟨d, hd, ?_⟩
      rw [ih.2 hds]
      rfl

theorem parse_eq_ok_iff {text : String} {declarations : List Declaration} :
    parse text = .ok declarations ↔ LinesDeclare text declarations :=
  declarationsFrom_eq_ok_iff

theorem splitLines_of_not_mem {text : List Char} (h : '\n' ∉ text) :
    Text.splitLines text = [text] := by
  induction text with
  | nil => rfl
  | cons c rest ih =>
    rw [List.mem_cons, not_or] at h
    rw [Text.splitLines, if_neg (Ne.symm h.1), ih h.2]

theorem dropWhile_of_head? {p : Char → Bool} {text : List Char}
    (h : ∀ c ∈ text.head?, p c = false) : text.dropWhile p = text := by
  cases text with
  | nil => rfl
  | cons c rest => rw [List.dropWhile_cons, h c rfl, if_neg Bool.false_ne_true]

theorem filledLines_ofList {line : List Char} (hne : line ≠ [])
    (hend : ∀ c ∈ line, c ≠ '\n' ∧ c ≠ '\r') (hfirst : ∀ c ∈ line.head?, Text.isBlank c = false)
    (hlast : ∀ c ∈ line.getLast?, Text.isBlank c = false) :
    filledLines (String.ofList line) = [(line, 1)] := by
  have htrim : Text.trim line = line := by
    rw [Text.trim, dropWhile_of_head? hfirst, dropWhile_of_head?, List.reverse_reverse]
    rwa [List.head?_reverse]
  have hfilter : line.filter (· != '\r') = line :=
    List.filter_eq_self.2 fun c hc ↦ bne_iff_ne.2 (hend c hc).2
  have hsplit : Text.splitLines line = [line] :=
    splitLines_of_not_mem fun hmem ↦ (hend _ hmem).1 rfl
  simp [filledLines, lines, hfilter, hsplit, htrim, hne]

end Schema

namespace RecordType

theorem firstRepeated?_of_nodup {seen names : List String} (h : names.Nodup)
    (hseen : ∀ n ∈ names, n ∉ seen) : firstRepeated? seen names = none := by
  induction names generalizing seen with
  | nil => rfl
  | cons name rest ih =>
    obtain ⟨hname, hrest⟩ := List.nodup_cons.1 h
    rw [firstRepeated?, if_neg (hseen name List.mem_cons_self)]
    refine ih hrest fun n hn ↦ ?_
    rw [List.mem_cons, not_or]
    exact ⟨fun he ↦ hname (he ▸ hn), hseen n (List.mem_cons_of_mem _ hn)⟩

theorem exists_make {name : String} {members : List Member} (hname : name ≠ "")
    (hnodup : (members.map Member.name).Nodup) :
    ∃ r, make (.text name) members = .ok r ∧ r.name = name := by
  have hrepeated : firstRepeated? [] (members.map Member.name) = none :=
    firstRepeated?_of_nodup hnodup fun _ _ ↦ List.not_mem_nil
  simp only [make, dif_pos hname]
  split
  · exact ⟨_, rfl, rfl⟩
  · rename_i member hmember
    rw [hrepeated] at hmember
    cases hmember

end RecordType

namespace Registry

open Schema

variable {reg grown : Registry} {text name : String} {r : RecordType}

theorem WellFormed.mem_names_of_isPrimitiveName (hreg : reg.WellFormed)
    (h : Scalar.isPrimitiveName name = true) : name ∈ reg.names := by
  obtain ⟨s, hs, hname⟩ := List.any_eq_true.1 h
  rw [names, hreg.entries_eq, standard_eq, ← beq_iff_eq.1 hname, List.map_append]
  refine List.mem_append_left _ (List.mem_map.2 ⟨_, List.mem_map_of_mem ?_, rfl⟩)
  exact List.mem_append_left _ hs

/-- What a schema has to satisfy to be compiled under a name. -/
structure Accepts (reg : Registry) (text name : String) (declarations : List Declaration) :
    Prop where
  name_ne : name ≠ ""
  absent : name ∉ reg.names
  filled : filledLines text ≠ []
  lists : LinesDeclare text declarations
  nodup : (declarations.map Declaration.name).Nodup
  fits : ∀ d ∈ declarations, d.Fits reg

theorem exists_compile (hreg : reg.WellFormed) {declarations : List Declaration}
    (h : Accepts reg text name declarations) :
    ∃ r grown, reg.compile text name = .ok (r, grown) := by
  have hprimitive : ¬ Scalar.isPrimitiveName name = true :=
    fun hp ↦ h.absent (hreg.mem_names_of_isPrimitiveName hp)
  have hcontains : ¬ reg.contains name = true := by simpa [contains] using h.absent
  have hparse : Schema.parse text = .ok declarations := parse_eq_ok_iff.2 h.lists
  have hempty : ¬ declarations.isEmpty = true := fun he ↦ by
    have hlists := h.lists
    rw [List.isEmpty_iff.1 he, LinesDeclare, List.forall₂_nil_right_iff] at hlists
    exact h.filled hlists
  have hmember : ∀ d ∈ declarations, ∃ m, d.member reg = .ok m := fun d hd ↦ by
    obtain ⟨l, -, hl⟩ := exists_of_forall₂ h.lists hd
    exact Declaration.exists_member hreg (Declaration.isRead_of_ofLine hl) (h.fits d hd)
  obtain ⟨members, hmembers⟩ :=
    Declaration.exists_membersOf name hmember h.nodup fun _ _ ↦ List.not_mem_nil
  have hnames : members.map Member.name = declarations.map Declaration.name :=
    map_eq_map_of_forall₂ ((Declaration.membersOf_eq_ok hmembers).imp fun _ _ hm ↦
      (Declaration.declares_of_member hm).1.name)
  obtain ⟨r, hr, hname⟩ := RecordType.exists_make h.name_ne (hnames ▸ h.nodup)
  refine ⟨r, ⟨reg.entries ++ [(name, .record r)]⟩, ?_⟩
  have hregister : reg.register name (.descriptor (.record r)) =
      .ok ⟨reg.entries ++ [(name, .record r)]⟩ := by
    rw [register, if_neg hprimitive, if_neg hcontains]
    exact if_pos hname
  rw [compile, if_neg hprimitive, if_neg hcontains, hparse, ok_bind, if_neg hempty, hmembers,
    ok_bind, hr, ok_bind, hregister]
  rfl

theorem accepts_of_compile (h : reg.compile text name = .ok (r, grown)) :
    r.name = name ∧ grown.entries = reg.entries ++ [(name, .record r)] ∧
      ∃ declarations, Accepts reg text name declarations ∧
        declarations.Forall₂ (Declaration.Declares reg) r.members := by
  obtain ⟨habsent, rfl, hentries, declarations, hparse, hne, hmembers⟩ := compile_eq_ok h
  have hlists := parse_eq_ok_iff.1 hparse
  have hdeclares := hmembers.imp fun _ _ hm ↦ (Declaration.declares_of_member hm).1
  have hnames : r.members.map Member.name = declarations.map Declaration.name :=
    map_eq_map_of_forall₂ (hdeclares.imp fun _ _ hm ↦ hm.name)
  refine ⟨rfl, hentries, declarations, ⟨r.name_ne, habsent, ?_, hlists, hnames ▸ r.nodup, ?_⟩,
    hdeclares⟩
  · intro he
    rw [LinesDeclare, he] at hlists
    cases hlists
    contradiction
  · intro d hd
    obtain ⟨m, -, hm⟩ := exists_of_forall₂ hmembers.flip hd
    exact (Declaration.declares_of_member hm).2

def sizeOf (reg : Registry) (d : Declaration) : Int :=
  d.count * ((reg.find? d.typeName).bind Descriptor.size?).getD 0

theorem totalSize_of_declares {declarations : List Declaration} {members : List Member}
    (h : declarations.Forall₂ (Declaration.Declares reg) members) :
    RecordType.totalSize members = (declarations.map reg.sizeOf).sum := by
  induction h with
  | nil => rfl
  | @cons d m _ _ hm _ ih =>
    obtain ⟨descriptor, hd, hsize⟩ := hm.sized
    rw [RecordType.totalSize, ih, List.map_cons, List.sum_cons, sizeOf, hd, Option.bind_some, hsize,
      Member.size, hm.count, Int.mul_comm]
    rfl

theorem exists_compile_line (hreg : reg.WellFormed) {line : List Char} {d : Declaration}
    (hname : name ≠ "") (habsent : name ∉ reg.names) (hline : filledLines text = [(line, 1)])
    (hd : Declaration.ofLine (String.ofList line) 1 = .ok d) (hfits : d.Fits reg) :
    ∃ r grown, reg.compile text name = .ok (r, grown) ∧ grown.find? name = some (.record r) ∧
      r.size = reg.sizeOf d := by
  have hlists : LinesDeclare text [d] := by
    rw [LinesDeclare, hline]
    exact .cons hd .nil
  have hfilled : filledLines text ≠ [] := by
    rw [hline]
    exact List.cons_ne_nil _ _
  obtain ⟨r, grown, h⟩ := exists_compile hreg ⟨hname, habsent, hfilled, hlists,
    by simp, by simpa using hfits⟩
  obtain ⟨-, hentries, declarations, haccepts, hdeclares⟩ := accepts_of_compile h
  have hsame : declarations = [d] := by
    have hlists' := haccepts.lists
    rw [LinesDeclare, hline] at hlists'
    cases hlists' with
    | cons hd' hrest =>
      cases hrest
      cases hd.symm.trans hd'
      rfl
  refine ⟨r, grown, h, ?_, ?_⟩
  · apply lookup_of_mem (nodup_of_added hentries hreg.nodup habsent)
    rw [hentries]
    exact List.mem_append_right _ List.mem_cons_self
  · rw [RecordType.size, totalSize_of_declares hdeclares, hsame, List.map_singleton,
      List.sum_singleton]

end Registry

/-- Whether a schema is refused with errors of a kind. A line that is well formed may still hold a
number that is too long to be read. -/
def ErrorKind.isOfSchema : ErrorKind → Bool
  | definition | unknownType | nameConflict | widthOverflow | unreadNumeral => true
  | _ => false

abbrev RefusesSchema {α : Type} (outcome : Except Error α) : Prop :=
  FailsWith (fun e ↦ e.causeKind.isOfSchema = true) outcome

theorem FailsWith.guard {α : Type} {P : Error → Prop} {c : Prop} [Decidable c] {e : Error}
    {x : Except Error α} (he : P e) (hx : FailsWith P x) :
    FailsWith P (if c then (throw e : Except Error PUnit) >>= fun _ ↦ x else x) := by
  split
  · exact .error he
  · exact hx

theorem RecordType.make_refuses (name : Value) (members : List Member) :
    RefusesSchema (make name members) := by
  unfold make
  split
  · split
    · split
      · exact .ok _
      · exact .error rfl
    · exact .error rfl
  · exact .error rfl

namespace Schema

namespace Declaration

theorem ofLine_refuses (text : String) (line : Int) : RefusesSchema (ofLine text line) := by
  intro e he
  rcases ofLine_eq_error he with ⟨rfl, -⟩ | ⟨hrefuses, -⟩
  · rfl
  · simp only [hrefuses.1, ErrorKind.isOfSchema]

theorem layoutOf_refuses (d : Declaration) (runs : List (Value × Value)) :
    RefusesSchema (d.layoutOf runs) := by
  unfold layoutOf
  split
  · exact .error rfl
  · refine .bind (.foldlM (fun l pair _ ↦ ?_) _) fun l ↦ .bind ?_ fun _ ↦ .ok _
    · exact (l.push_refuses _ _).mono fun e he ↦ congrArg ErrorKind.isOfSchema he
    · exact (l.fit_refuses _ _).mono fun e he ↦ congrArg ErrorKind.isOfSchema he

theorem member_refuses (d : Declaration) (reg : Registry) : RefusesSchema (d.member reg) := by
  unfold member memberWith
  refine .guard rfl (.bind ?_ fun descriptor ↦ ?_)
  · unfold Registry.lookup
    split
    · exact .ok _
    · exact .error rfl
  · split
    · exact .error rfl
    · refine .bind ?_ fun _ ↦ .ok _
      cases d.runPairs with
      | none => exact .ok _
      | some runs => exact (d.layoutOf_refuses runs).bind fun _ ↦ .ok _

theorem membersOf_refuses (reg : Registry) (record : String) (seen : List String)
    (declarations : List Declaration) : RefusesSchema (membersOf reg record seen declarations) := by
  induction declarations generalizing seen with
  | nil => exact .ok _
  | cons d rest ih =>
    rw [membersOf]
    exact .guard rfl ((d.member_refuses reg).bind fun _ ↦ (ih _).bind fun _ ↦ .ok _)

end Declaration

theorem declarationsFrom_refuses (line : Nat) (texts : List (List Char)) :
    RefusesSchema (declarationsFrom line texts) := by
  induction texts generalizing line with
  | nil => exact .ok _
  | cons text rest ih =>
    rw [declarationsFrom]
    split
    · exact ih _
    · exact (Declaration.ofLine_refuses _ _).bind fun _ ↦ (ih _).bind fun _ ↦ .ok _

end Schema

namespace Registry

open Schema

theorem register_refuses (reg : Registry) (name : String) (d : Descriptor) :
    RefusesSchema (reg.register name (.descriptor d)) := by
  unfold register
  split
  · exact .error rfl
  · split
    · exact .error rfl
    · dsimp only
      split
      · exact .ok _
      · exact .error rfl

theorem compile_refuses (reg : Registry) (text name : String) :
    RefusesSchema (reg.compile text name) := by
  unfold compile
  refine .guard rfl (.guard rfl ((Schema.declarationsFrom_refuses 1 _).bind fun declarations ↦ ?_))
  dsimp only
  exact .guard rfl ((Schema.Declaration.membersOf_refuses reg name [] _).bind fun members ↦
    (RecordType.make_refuses _ members).bind fun r ↦
      (reg.register_refuses name _).bind fun _ ↦ .ok _)

/-- A schema is compiled exactly if a registry accepts its declarations. The record type is then
appended under its name, with a member for every declaration, and is as large as these together.
Otherwise the schema is refused, and a registry that is changed in place has not been changed. -/
theorem compile_accepts_schemas (schemas : List (String × String)) (text name : String) :
    let reg := standard.attemptAll schemas
    ((∃ r grown, reg.compile text name = .ok (r, grown)) ↔
      ∃ declarations, Accepts reg text name declarations) ∧
    (∀ r grown, reg.compile text name = .ok (r, grown) →
      (RegistryM.compile text name).run reg = .ok r grown ∧
      r.name = name ∧ grown.entries = reg.entries ++ [(name, .record r)] ∧
      ∃ declarations, LinesDeclare text declarations ∧
        declarations.Forall₂ (Declaration.Declares reg) r.members ∧
        r.size = (declarations.map reg.sizeOf).sum) ∧
    ∀ e, reg.compile text name = .error e →
      (RegistryM.compile text name).run reg = .error e reg ∧ e.causeKind.isOfSchema = true := by
  intro reg
  have hreg : reg.WellFormed := wellFormed_attemptAll schemas
  refine ⟨⟨?_, fun ⟨_, h⟩ ↦ exists_compile hreg h⟩, fun r grown h ↦ ?_, fun e h ↦ ?_⟩
  · rintro ⟨r, grown, h⟩
    obtain ⟨-, -, declarations, haccepts, -⟩ := accepts_of_compile h
    exact ⟨declarations, haccepts⟩
  · obtain ⟨hname, hentries, declarations, haccepts, hdeclares⟩ := accepts_of_compile h
    refine ⟨?_, hname, hentries, declarations, haccepts.lists, hdeclares,
      totalSize_of_declares hdeclares⟩
    rw [RegistryM.run_compile, h]
    rfl
  · refine ⟨?_, compile_refuses reg text name e h⟩
    rw [RegistryM.run_compile, h]
    rfl

end Registry

end RecordCodec
