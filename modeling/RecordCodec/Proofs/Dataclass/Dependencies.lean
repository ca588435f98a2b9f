import Mathlib.Data.List.Nodup
import Mathlib.Logic.Relation
import RecordCodec.Dataclass.Source
import RecordCodec.Proofs.Registry.Nesting

namespace RecordCodec

namespace Registry

variable {reg : Registry} {r inner : RecordType}

def IsTypeOf (reg : Registry) (m : Member) (r : RecordType) : Prop :=
  reg.find? m.typeName = some (.record r)

def RefersTo (reg : Registry) (outer inner : RecordType) : Prop :=
  ∃ m ∈ outer.members, reg.IsTypeOf m inner

/-- Whether a record type is made of another one, at any depth, or is the same. -/
def Reaches (reg : Registry) : RecordType → RecordType → Prop :=
  Relation.ReflTransGen reg.RefersTo

theorem WellFormed.eq_of_name_eq (h : reg.WellFormed) (hr : r ∈ reg.records)
    (hinner : inner ∈ reg.records) (hname : inner.name = r.name) : inner = r := by
  have hfind := h.find?_record hinner
  rw [hname, h.find?_record hr] at hfind
  cases hfind
  rfl

theorem WellFormed.rank_lt_of_refersTo (h : reg.WellFormed) (hr : r ∈ reg.records)
    (href : reg.RefersTo r inner) :
    inner ∈ reg.records ∧ reg.rank inner.name < reg.rank r.name := by
  obtain ⟨m, hm, hfind⟩ := href
  obtain ⟨hinner, hname⟩ := h.mem_records hfind
  exact ⟨hinner, hname ▸ (h.supported r hr m hm).rank_lt⟩

theorem WellFormed.rank_le_of_reaches (h : reg.WellFormed) (hr : r ∈ reg.records)
    (hreach : reg.Reaches r inner) :
    inner ∈ reg.records ∧ reg.rank inner.name ≤ reg.rank r.name := by
  induction hreach with
  | refl => exact ⟨hr, Nat.le_refl _⟩
  | tail _ href ih =>
    obtain ⟨hmem, hle⟩ := ih
    obtain ⟨hinner, hlt⟩ := h.rank_lt_of_refersTo hmem href
    exact ⟨hinner, hlt.le.trans hle⟩

/-- A sequence of record types, each new and put behind all those that it refers to. -/
inductive InOrder (reg : Registry) : List RecordType → Prop
  | nil : InOrder reg []
  | concat {records : List RecordType} {r : RecordType} (h : InOrder reg records)
    (hr : r ∈ reg.records) (hnew : r ∉ records)
    (hbefore : ∀ inner, reg.RefersTo r inner → inner ∈ records) : InOrder reg (records ++ [r])

namespace InOrder

variable {records : List RecordType}

theorem registered (h : reg.InOrder records) : ∀ r ∈ records, r ∈ reg.records := by
  induction h with
  | nil => exact List.forall_mem_nil _
  | concat _ hr _ _ ih => exact List.forall_mem_append.2 ⟨ih, List.forall_mem_singleton.2 hr⟩

theorem nodup_names (h : reg.InOrder records) (hreg : reg.WellFormed) :
    (records.map RecordType.name).Nodup := by
  induction h with
  | nil => exact List.nodup_nil
  | @concat records r h hr hnew _ ih =>
    rw [List.map_append, List.map_singleton, ← List.concat_eq_append, List.nodup_concat]
    refine ⟨fun hmem ↦ hnew ?_, ih⟩
    obtain ⟨t, ht, hname⟩ := List.mem_map.1 hmem
    exact hreg.eq_of_name_eq hr (h.registered t ht) hname ▸ ht

theorem before (h : reg.InOrder records) {front back : List RecordType}
    (hsplit : records = front ++ r :: back) (href : reg.RefersTo r inner) : inner ∈ front := by
  induction h generalizing back with
  | nil => simp at hsplit
  | @concat records t h hr hnew hbefore ih =>
    rcases List.eq_nil_or_concat back with rfl | ⟨back, last, rfl⟩
    · obtain ⟨rfl, hlast⟩ := List.append_inj' hsplit rfl
      cases hlast
      exact hbefore inner href
    · rw [List.concat_eq_append, ← List.cons_append, ← List.append_assoc] at hsplit
      exact ih (List.append_inj' hsplit rfl).1

theorem closed (h : reg.InOrder records) (hr : r ∈ records) (href : reg.RefersTo r inner) :
    inner ∈ records := by
  obtain ⟨front, back, hsplit⟩ := List.append_of_mem hr
  rw [hsplit]
  exact List.mem_append_left _ (h.before hsplit href)

theorem mem_of_reaches (h : reg.InOrder records) (hr : r ∈ records)
    (hreach : reg.Reaches r inner) : inner ∈ records := by
  induction hreach with
  | refl => exact hr
  | tail _ href ih => exact h.closed ih href

end InOrder

end Registry

namespace Dataclass

open Registry

variable {reg : Registry} {r : RecordType} {nesting : Nat} {records found found' : List RecordType}

def placements (records : List RecordType) : List Placement :=
  records.map Placement.ofRecord

theorem isPlaced_placements {name : String} :
    isPlaced (placements records) name = true ↔ ∃ t ∈ records, t.name = name := by
  simp [isPlaced, placements, Placement.ofRecord]

theorem insertPlacement_of_not_mem {p : Placement} {found : List Placement}
    (h : ∀ q ∈ found, q.name ≠ p.name) : insertPlacement p found = found ++ [p] := by
  induction found with
  | nil => rfl
  | cons q rest ih =>
    obtain ⟨hq, hrest⟩ := List.forall_mem_cons.1 h
    rw [insertPlacement, if_neg hq, ih hrest, List.cons_append]

def collectMember (reg : Registry) (nesting : Nat) (found : List Placement) (m : Member) :
    Except Error (List Placement) :=
  if isPlaced found m.typeName then .ok found
  else
    match reg.lookup m.typeName with
    | .error e => .error e
    | .ok (.scalar _) => .ok found
    | .ok (.record inner) => collectWithin reg nesting inner found

theorem collectWithin_succ (found : List Placement) : collectWithin reg (nesting + 1) r found =
    if isPlaced found r.name then .ok found
    else do
      let found ← r.members.foldlM (collectMember reg nesting) found
      return insertPlacement (.ofRecord r) found :=
  rfl

/-- A search that began with the record types in `records` has got to those in `found`: it has kept
them in order, has found all of its sources and nothing besides what these reach. -/
structure Search (reg : Registry) (sources : RecordType → Prop) (records found : List RecordType) :
    Prop where
  inOrder : reg.InOrder found
  grown : records <+: found
  complete : ∀ s, sources s → s ∈ found
  sound : ∀ t ∈ found, t ∉ records → ∃ s, sources s ∧ reg.Reaches s t

namespace Search

variable {sources sources' : RecordType → Prop}

theorem stay (h : reg.InOrder records) (hsources : ∀ s, sources s → s ∈ records) :
    Search reg sources records records where
  inOrder := h
  grown := List.prefix_refl _
  complete := hsources
  sound _ ht hnew := absurd ht hnew

theorem mono (h : Search reg sources records found) (hsources : ∀ s, sources s ↔ sources' s) :
    Search reg sources' records found := by
  obtain rfl : sources = sources' := funext fun s ↦ propext (hsources s)
  exact h

theorem trans (h : Search reg sources records found) (h' : Search reg sources' found found') :
    Search reg (fun s ↦ sources s ∨ sources' s) records found' where
  inOrder := h'.inOrder
  grown := h.grown.trans h'.grown
  complete s hs := by
    rcases hs with hs | hs
    · exact h'.grown.subset (h.complete s hs)
    · exact h'.complete s hs
  sound t ht hnew := by
    by_cases hfound : t ∈ found
    · obtain ⟨s, hs, hreach⟩ := h.sound t hfound hnew
      exact ⟨s, .inl hs, hreach⟩
    · obtain ⟨s, hs, hreach⟩ := h'.sound t ht hfound
      exact ⟨s, .inr hs, hreach⟩

/-- Once all that a record type refers to has been found, it is entered behind it. -/
theorem enter (h : Search reg (reg.RefersTo r) records found) (hr : r ∈ reg.records)
    (hnew : r ∉ found) : Search reg (· = r) records (found ++ [r]) where
  inOrder := h.inOrder.concat hr hnew h.complete
  grown := h.grown.trans (List.prefix_append _ _)
  complete s hs := by
    rw [hs]
    exact List.mem_append_right _ List.mem_cons_self
  sound t ht hnew := by
    refine ⟨r, rfl, ?_⟩
    rcases List.mem_append.1 ht with ht | ht
    · obtain ⟨s, hs, hreach⟩ := h.sound t ht hnew
      exact .head hs hreach
    · rw [List.mem_singleton.1 ht]
      exact .refl

theorem not_mem (h : Search reg (reg.RefersTo r) records found) (hreg : reg.WellFormed)
    (hr : r ∈ reg.records) (hnew : r ∉ records) : r ∉ found := by
  intro hfound
  obtain ⟨s, hs, hreach⟩ := h.sound r hfound hnew
  obtain ⟨hmem, hlt⟩ := hreg.rank_lt_of_refersTo hr hs
  have := (hreg.rank_le_of_reaches hmem hreach).2
  omega

end Search

def Searches (reg : Registry) (nesting : Nat) : Prop :=
  ∀ r ∈ reg.records, reg.rank r.name < nesting → ∀ records, reg.InOrder records →
    ∃ found, collectWithin reg nesting r (placements records) = .ok (placements found) ∧
      Search reg (· = r) records found

theorem exists_collectMember (hreg : reg.WellFormed) (hsearch : Searches reg nesting)
    (hr : r ∈ reg.records) (hn : reg.rank r.name < nesting + 1) {m : Member} (hm : m ∈ r.members)
    (hrecords : reg.InOrder records) :
    ∃ found, collectMember reg nesting (placements records) m = .ok (placements found) ∧
      Search reg (IsTypeOf reg m) records found := by
  have hsupports := hreg.supported r hr m hm
  obtain ⟨d, hd, -⟩ := hsupports.sized
  have hrank := hsupports.rank_lt
  rw [collectMember]
  split
  · rename_i hplaced
    obtain ⟨t, ht, hname⟩ := isPlaced_placements.1 hplaced
    refine ⟨records, rfl, .stay hrecords fun s hs ↦ ?_⟩
    obtain ⟨hmem, hs⟩ := hreg.mem_records hs
    exact hreg.eq_of_name_eq (hrecords.registered t ht) hmem (hs.trans hname.symm) ▸ ht
  · rw [Registry.lookup_eq_ok_iff.2 hd]
    cases d with
    | scalar t =>
      refine ⟨records, rfl, .stay hrecords fun s hs ↦ ?_⟩
      cases hd.symm.trans hs
    | record inner =>
      obtain ⟨hinner, hname⟩ := hreg.mem_records hd
      obtain ⟨found, hfound, hto⟩ := hsearch inner hinner (by rw [hname]; omega) records hrecords
      refine ⟨found, hfound, hto.mono fun s ↦ ⟨fun hs ↦ hs ▸ hd, fun hs ↦ ?_⟩⟩
      cases hd.symm.trans hs
      rfl

theorem exists_collectMembers (hreg : reg.WellFormed) (hsearch : Searches reg nesting)
    (hr : r ∈ reg.records) (hn : reg.rank r.name < nesting + 1) {members : List Member}
    (hmembers : ∀ m ∈ members, m ∈ r.members) (hrecords : reg.InOrder records) :
    ∃ found, members.foldlM (collectMember reg nesting) (placements records) =
        .ok (placements found) ∧
      Search reg (fun t ↦ ∃ m ∈ members, IsTypeOf reg m t) records found := by
  induction members generalizing records with
  | nil => exact ⟨records, rfl, .stay hrecords (by simp)⟩
  | cons m rest ih =>
    obtain ⟨hm, hrest⟩ := List.forall_mem_cons.1 hmembers
    obtain ⟨found, hfound, hto⟩ := exists_collectMember hreg hsearch hr hn hm hrecords
    obtain ⟨found', hfound', hto'⟩ := ih hrest hto.inOrder
    refine ⟨found', ?_, (hto.trans hto').mono fun t ↦ ?_⟩
    · rw [List.foldlM_cons, hfound, ok_bind, hfound']
    · simp

/-- A record type that is new comes last, behind all that its members refer to. -/
theorem exists_collectWithin (hreg : reg.WellFormed) (hsearch : Searches reg nesting)
    (hr : r ∈ reg.records) (hn : reg.rank r.name < nesting + 1) (hnew : r ∉ records)
    (hrecords : reg.InOrder records) :
    ∃ found, collectWithin reg (nesting + 1) r (placements records) =
        .ok (placements (found ++ [r])) ∧
      Search reg (· = r) records (found ++ [r]) := by
  obtain ⟨found, hfound, hto⟩ := exists_collectMembers hreg hsearch hr hn (fun _ hm ↦ hm) hrecords
  have hto : Search reg (reg.RefersTo r) records found := hto
  have hlast := hto.not_mem hreg hr hnew
  have hplaced : ¬ isPlaced (placements records) r.name = true := fun h ↦ by
    obtain ⟨t, ht, hname⟩ := isPlaced_placements.1 h
    exact hnew (hreg.eq_of_name_eq hr (hrecords.registered t ht) hname ▸ ht)
  have hnames : ∀ q ∈ placements found, q.name ≠ (Placement.ofRecord r).name := fun q hq hname ↦ by
    obtain ⟨t, ht, rfl⟩ := List.mem_map.1 hq
    exact hlast (hreg.eq_of_name_eq hr (hto.inOrder.registered t ht) hname ▸ ht)
  refine ⟨found, ?_, hto.enter hr hlast⟩
  rw [collectWithin_succ, if_neg hplaced, hfound, ok_bind, insertPlacement_of_not_mem hnames,
    placements, placements, List.map_append]
  rfl

theorem searches (hreg : reg.WellFormed) (nesting : Nat) : Searches reg nesting := by
  induction nesting with
  | zero => exact fun _ _ hn ↦ absurd hn (Nat.not_lt_zero _)
  | succ nesting ih =>
    intro r hr hn records hrecords
    by_cases hold : r ∈ records
    · refine ⟨records, ?_, .stay hrecords fun s hs ↦ hs ▸ hold⟩
      rw [collectWithin_succ, if_pos (isPlaced_placements.2 ⟨r, hold, rfl⟩)]
    · obtain ⟨found, hfound, hto⟩ := exists_collectWithin hreg ih hr hn hold hrecords
      exact ⟨found ++ [r], hfound, hto⟩

theorem exists_collect (hreg : reg.WellFormed) (hr : r ∈ reg.records) :
    ∃ records, collect reg r = .ok (placements records) ∧ reg.InOrder records ∧
      (∀ t, t ∈ records ↔ reg.Reaches r t) ∧ records.getLast? = some r := by
  have hrank := rank_lt_size (mem_names_of_find? (hreg.find?_record hr))
  obtain ⟨found, hfound, hto⟩ := exists_collectWithin hreg (searches hreg (reg.size + 1)) hr
    (by omega) List.not_mem_nil .nil
  refine ⟨found ++ [r], hfound, hto.inOrder, fun t ↦ ⟨fun ht ↦ ?_, fun hreach ↦ ?_⟩, by simp⟩
  · obtain ⟨s, rfl, hreach⟩ := hto.sound t ht List.not_mem_nil
    exact hreach
  · exact hto.inOrder.mem_of_reaches (hto.complete r rfl) hreach

theorem render_of_collect (runtime : String) {found : List Placement}
    (h : collect reg r = .ok found) : render reg r runtime = checkNames [] found >>= fun _ ↦
      if found.all Placement.isWritable then
        .ok (unlines (moduleHead r.name runtime ++ found.flatMap (classLines found)))
      else .error .numberTooLong := by
  rw [render, h, ok_bind]
  cases checkNames [] found with
  | error e => rfl
  | ok _ =>
    by_cases hwritable : found.all Placement.isWritable = true
    · simp only [hwritable, if_true]
      rfl
    · simp only [hwritable]
      rfl

theorem render_eq_ok {runtime text : String} {found : List Placement}
    (hfound : collect reg r = .ok found) (h : render reg r runtime = .ok text) :
    checkNames [] found = .ok () ∧
      text = unlines (moduleHead r.name runtime ++ found.flatMap (classLines found)) := by
  rw [render_of_collect runtime hfound] at h
  obtain ⟨_, hnames, h⟩ := bind_eq_ok.1 h
  split at h
  · cases h
    exact ⟨hnames, rfl⟩
  · cases h

/-- Generating a class collects the record types that it is made of: each once, with its placement,
and behind those that it refers to. -/
theorem collect_in_order (schemas : List (String × String)) {record : String} {r : RecordType}
    (hr : (standard.attemptAll schemas).find? record = some (.record r)) :
    let reg := standard.attemptAll schemas
    ∃ records, collect reg r = .ok (records.map Placement.ofRecord) ∧
      (∀ t, t ∈ records ↔ reg.Reaches r t) ∧
      (records.map RecordType.name).Nodup ∧
      (∀ front t back, records = front ++ t :: back → ∀ inner, reg.RefersTo t inner →
        inner ∈ front) ∧
      records.getLast? = some r ∧
      ∀ runtime text, render reg r runtime = .ok text →
        text = unlines (moduleHead r.name runtime ++ (records.map Placement.ofRecord).flatMap
          (classLines (records.map Placement.ofRecord))) := by
  intro reg
  have hreg : reg.WellFormed := wellFormed_attemptAll schemas
  obtain ⟨hmem, -⟩ := hreg.mem_records hr
  obtain ⟨records, hrecords, horder, hreaches, hlast⟩ := exists_collect hreg hmem
  exact ⟨records, hrecords, hreaches, horder.nodup_names hreg,
    fun _ _ _ hsplit _ href ↦ horder.before hsplit href, hlast,
    fun _ _ h ↦ (render_eq_ok hrecords h).2⟩

def diamondSchemas : List (String × String) :=
  [("u8 x", "Leaf"), ("Leaf[2] leaves", "Left"), ("u16 n\nLeaf leaf", "Right"), ("u8 y", "Apart"),
    ("Right right\nLeft left\nRight[3] more", "Top")]

def collects (reg : Registry) (check : List Placement → Bool) : Descriptor → Bool
  | .record r => (collect reg r).toOption.any check
  | .scalar _ => false

theorem exists_of_collects {record : String} {check : List Placement → Bool}
    (h : (reg.find? record).any (collects reg check) = true) : ∃ r found,
      reg.find? record = some (.record r) ∧ collect reg r = .ok found ∧ check found = true := by
  obtain ⟨d, hd, hcollects⟩ := (Option.any_eq_true _ _).1 h
  cases d with
  | scalar t => cases hcollects
  | record r =>
    rw [collects] at hcollects
    cases hfound : collect reg r with
    | error e =>
      rw [hfound] at hcollects
      cases hcollects
    | ok found =>
      rw [hfound] at hcollects
      exact ⟨r, found, hd, hfound, hcollects⟩

theorem collect_in_order_diamond : ∃ (r : RecordType) (records : List RecordType),
    (standard.attemptAll diamondSchemas).find? "Top" = some (.record r) ∧
    collect (standard.attemptAll diamondSchemas) r = .ok (records.map Placement.ofRecord) ∧
    records.map RecordType.name = ["Leaf", "Right", "Left", "Top"] ∧
    ∀ t, (standard.attemptAll diamondSchemas).Reaches r t → t ∈ records := by
  have h : ((standard.attemptAll diamondSchemas).find? "Top").any
      (collects (standard.attemptAll diamondSchemas)
        (·.map Placement.name == ["Leaf", "Right", "Left", "Top"])) = true := by
    decide +kernel
  obtain ⟨r, found, hr, hfound, hnames⟩ := exists_of_collects h
  obtain ⟨records, hrecords, hreaches, -⟩ := collect_in_order diamondSchemas hr
  cases hfound.symm.trans hrecords
  rw [beq_iff_eq, List.map_map] at hnames
  exact ⟨r, records, hr, hrecords, hnames, fun t ↦ (hreaches t).2⟩

end Dataclass

end RecordCodec
