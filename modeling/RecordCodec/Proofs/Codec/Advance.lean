import RecordCodec.Proofs.Codec.Iteration
import RecordCodec.Proofs.Registry.InPlace

namespace RecordCodec

namespace Registry

/-- A type whose values take no byte: a record of such types only, all of them known. -/
inductive Hollow (reg : Registry) : Descriptor → Prop
  | record {r : RecordType} (known : ∀ m ∈ r.members, ∃ d, reg.find? m.typeName = some d)
      (hollow : ∀ m ∈ r.members, ∀ d, reg.find? m.typeName = some d → Hollow reg d) :
      Hollow reg (.record r)

variable {reg grown start : Registry} {type : String} {d : Descriptor} {r : RecordType}

theorem not_hollow_scalar (t : ScalarType) : ¬ reg.Hollow (.scalar t) :=
  nofun

theorem hollow_record_iff : reg.Hollow (.record r) ↔
    ∀ m ∈ r.members, ∃ d, reg.find? m.typeName = some d ∧ reg.Hollow d := by
  constructor
  · rintro (⟨known, hollow⟩) m hm
    obtain ⟨d, hd⟩ := known m hm
    exact ⟨d, hd, hollow m hm d hd⟩
  · intro h
    refine .record (fun m hm ↦ ?_) (fun m hm d hd ↦ ?_)
    · obtain ⟨d, hd, -⟩ := h m hm
      exact ⟨d, hd⟩
    · obtain ⟨d', hd', hollow⟩ := h m hm
      cases hd.symm.trans hd'
      exact hollow

theorem mem_records_iff : r ∈ reg.records ↔ ∃ name, (name, .record r) ∈ reg.entries := by
  rw [records, List.mem_filterMap]
  constructor
  · rintro ⟨⟨name, _ | r'⟩, hentry, h⟩
    · cases h
    · cases h
      exact ⟨name, hentry⟩
  · rintro ⟨name, hentry⟩
    exact ⟨_, hentry, rfl⟩

theorem Hollow.exists_empty (h : reg.Hollow d) (hd : reg.find? type = some d) :
    ∃ r ∈ reg.records, r.members = [] := by
  induction h generalizing type with
  | @record r known _ ih =>
    cases hmembers : r.members with
    | nil => exact ⟨r, mem_records_iff.2 ⟨type, mem_of_lookup hd⟩, hmembers⟩
    | cons m rest =>
      have hm : m ∈ r.members := hmembers ▸ List.mem_cons_self
      obtain ⟨d', hd'⟩ := known m hm
      exact ih m hm d' hd' hd'

theorem mem_records_of_added {entry : String × Descriptor}
    (hg : grown.entries = reg.entries ++ [entry]) (hr : r ∈ grown.records) :
    r ∈ reg.records ∨ entry.2 = .record r := by
  obtain ⟨name, hname⟩ := mem_records_iff.1 hr
  rw [hg] at hname
  rcases List.mem_append.1 hname with hname | hname
  · exact .inl (mem_records_iff.2 ⟨name, hname⟩)
  · rw [← List.mem_singleton.1 hname]
    exact .inr rfl

theorem empty_of_handle {request : Request} (hr : r ∈ (reg.handle request).records)
    (hempty : r.members = []) :
    r ∈ reg.records ∨ ∃ name, request = .register name (.descriptor (.record r)) := by
  cases request with
  | register name candidate =>
    rw [handle] at hr
    split at hr
    · rename_i grown hgrown
      obtain ⟨d, rfl, -, -, hentries⟩ := register_candidate_eq_ok hgrown
      rcases mem_records_of_added hentries hr with hr | hd
      · exact .inl hr
      · exact .inr ⟨name, by rw [← hd]⟩
    · exact .inl hr
  | compile text name =>
    rw [handle, attempt] at hr
    split at hr
    · rename_i r' grown hgrown
      obtain ⟨-, -, hentries, declarations, -, hne, hmembers⟩ := compile_eq_ok hgrown
      rcases mem_records_of_added hentries hr with hr | hd
      · exact .inl hr
      · cases hd
        exact absurd hempty (members_ne_nil_of_compiled hne hmembers)
    · exact .inl hr

theorem empty_of_handleAll {requests : List Request}
    (hr : r ∈ (reg.handleAll requests).records) (hempty : r.members = []) :
    r ∈ reg.records ∨ ∃ name, .register name (.descriptor (.record r)) ∈ requests := by
  induction requests generalizing reg with
  | nil => exact .inl hr
  | cons request rest ih =>
    rcases ih hr with hr | ⟨name, hname⟩
    · rcases empty_of_handle hr hempty with hr | ⟨name, rfl⟩
      · exact .inl hr
      · exact .inr ⟨name, List.mem_cons_self⟩
    · exact .inr ⟨name, List.mem_cons_of_mem _ hname⟩

end Registry

section Taken

open Registry

theorem Scalar.size_pos_of_read {t : Scalar} {order : ByteOrder} {options v : Value}
    {buffer : Bytes} {offset : Int} {n : Nat}
    (h : t.read order options buffer offset = .ok (v, n)) : 0 < n := by
  cases t with
  | leaf l =>
    obtain ⟨v', -, hv⟩ := bind_eq_ok.1 h
    cases hv
    exact Expansion.leaf_size_pos l
  | string =>
    simp only [read, readString] at h
    split at h
    · cases h
    · split at h
      · cases h
      · cases h
        exact Nat.succ_pos _

namespace Codec

variable {reg : Registry} {order : ByteOrder} {buffer : Bytes} {n : Nat}

theorem readItems_eq_zero {item : Nat → Except Error (Value × Nat)} {P : Prop}
    (hitem : ∀ cursor v size, item cursor = .ok (v, size) → (size = 0 ↔ P))
    {count cursor : Nat} {vs : List Value} (hcount : 0 < count)
    (h : readItems item count cursor = .ok (vs, n)) : n = 0 ↔ P := by
  induction count generalizing cursor vs n with
  | zero => exact absurd hcount (Nat.lt_irrefl 0)
  | succ count ih =>
    obtain ⟨⟨v, size⟩, hfirst, h⟩ := bind_eq_ok.1 h
    obtain ⟨⟨rest, total⟩, hrest, h⟩ := bind_eq_ok.1 h
    cases h
    rw [Nat.add_eq_zero_iff, hitem _ _ _ hfirst]
    cases count with
    | zero =>
      cases hrest
      exact and_iff_left rfl
    | succ count => rw [ih (Nat.succ_pos _) hrest, and_self_iff]

theorem readMembers_eq_zero {member : Member → Nat → Except Error (Value × Nat)}
    {P : Member → Prop}
    (hmember : ∀ m cursor v size, member m cursor = .ok (v, size) → (size = 0 ↔ P m))
    {members : List Member} {cursor : Nat} {entries : List (String × Value)}
    (h : readMembers member members cursor = .ok (entries, n)) : n = 0 ↔ ∀ m ∈ members, P m := by
  induction members generalizing cursor entries n with
  | nil =>
    cases h
    exact iff_of_true rfl nofun
  | cons m rest ih =>
    obtain ⟨⟨v, size⟩, hfirst, h⟩ := bind_eq_ok.1 h
    obtain ⟨⟨entries', total⟩, hrest, h⟩ := bind_eq_ok.1 h
    cases h
    rw [Nat.add_eq_zero_iff, hmember _ _ _ _ hfirst, ih hrest, List.forall_mem_cons]

theorem readMember_eq_zero {item : Descriptor → Value → Nat → Except Error (Value × Nat)}
    (hitem : ∀ d options cursor v size, item d options cursor = .ok (v, size) →
      (size = 0 ↔ reg.Hollow d))
    {m : Member} {cursor : Nat} {v : Value} (h : readMember reg item m cursor = .ok (v, n)) :
    n = 0 ↔ ∃ d, reg.find? m.typeName = some d ∧ reg.Hollow d := by
  obtain ⟨d, hd, h⟩ := bind_eq_ok.1 h
  have hd := lookup_eq_ok_iff.1 hd
  have hzero : n = 0 ↔ reg.Hollow d := by
    split at h
    · exact hitem _ _ _ _ _ h
    · obtain ⟨⟨items, size⟩, hitems, h⟩ := bind_eq_ok.1 h
      cases h
      exact readItems_eq_zero (hitem d m.options) m.count_pos hitems
  rw [hzero, hd]
  constructor
  · exact fun hollow ↦ ⟨d, rfl, hollow⟩
  · rintro ⟨d', hd', hollow⟩
    cases hd'
    exact hollow

/-- A value that is read takes no byte iff its type is hollow. -/
theorem readNested_eq_zero {nesting : Nat} (d : Descriptor) (options : Value) (cursor : Nat)
    (v : Value) (n : Nat) (h : readNested reg order buffer nesting d options cursor = .ok (v, n)) :
    n = 0 ↔ reg.Hollow d := by
  induction nesting generalizing d options cursor v n with
  | zero => cases h
  | succ nesting ih =>
    cases d with
    | scalar t =>
      exact iff_of_false (Nat.pos_iff_ne_zero.1 (Scalar.size_pos_of_read h)) (not_hollow_scalar t)
    | record r =>
      obtain ⟨⟨entries, size⟩, hentries, h⟩ := bind_eq_ok.1 h
      cases h
      rw [hollow_record_iff]
      exact readMembers_eq_zero (fun _ _ _ _ h ↦ readMember_eq_zero ih h) hentries

end Codec

end Taken

namespace Stream

open Registry

variable {reg start : Registry} {type : String} {order v : Value} {s after : Stream}
  {d : Descriptor}

theorem readNext_eq_ok (hd : reg.find? type = some d)
    (h : s.readNext reg type order = .ok (v, after)) :
    ∃ n : Nat, after = s.moved n ∧ (n = 0 ↔ reg.Hollow d) := by
  obtain ⟨⟨v, n⟩, hread, h⟩ := bind_eq_ok.1 h
  cases h
  refine ⟨n, rfl, ?_⟩
  obtain ⟨data, -, hread⟩ := bind_eq_ok.1 hread
  obtain ⟨d', hd', hread⟩ := bind_eq_ok.1 hread
  obtain ⟨p, -, hread⟩ := bind_eq_ok.1 hread
  obtain ⟨o, -, hread⟩ := bind_eq_ok.1 hread
  cases (lookup_eq_ok_iff.1 hd').symm.trans hd
  exact Codec.readNested_eq_zero _ _ _ _ _ hread

theorem exists_drains_of_advance
    (hadvance : ∀ {s after : Stream} {v}, s.readNext reg type order = .ok (v, after) →
      ∃ n : Nat, after = s.moved n ∧ 0 < n) (s : Stream) :
    ∃ drained, Drains reg type order s drained ∧
      drained.values.length + drained.stopped.toList.length ≤ (s.length - s.cursor).toNat := by
  induction hleft : (s.length - s.cursor).toNat using Nat.strong_induction_on generalizing s with
  | _ left ih =>
    by_cases hlt : s.cursor < s.length
    · cases hread : s.readNext reg type order with
      | error e =>
        refine ⟨_, .failed hlt hread, ?_⟩
        simp only [List.length_nil, Option.toList_some, List.length_singleton]
        omega
      | ok result =>
        obtain ⟨n, hmoved, hn⟩ := hadvance hread
        have hless : (result.2.length - result.2.cursor).toNat < left := by
          rw [hmoved, length_moved, cursor_moved]
          omega
        obtain ⟨rest, hrest, hbound⟩ := ih _ hless result.2 rfl
        refine ⟨_, .next hlt hread hrest, ?_⟩
        simp only [List.length_cons]
        omega
    · exact ⟨_, .finished (Int.not_lt.1 hlt), Nat.zero_le _⟩

theorem not_drains_of_readNext (hlt : s.cursor < s.length)
    (h : s.readNext reg type order = .ok (v, s)) (drained : Drained) :
    ¬ Drains reg type order s drained := by
  intro hdrains
  induction hdrains with
  | finished hend => omega
  | failed _ hread => cases h.symm.trans hread
  | next _ hread _ ih =>
    cases h.symm.trans hread
    exact ih hlt h

/-- A value moves the cursor unless its type is hollow, and then it leaves it where it is. So
reading to the end of a stream gives no more values than there are bytes and comes to an end, or it
comes to none at all. There are hollow types only where a record type without members was
registered. -/
theorem advances_unless_hollow (h : start = primitive ∨ start = standard) (requests : List Request)
    (hd : (start.handleAll requests).find? type = some d) (order : Value) :
    let reg := start.handleAll requests
    (∀ (s after : Stream) v, s.readNext reg type order = .ok (v, after) →
      ∃ n : Nat, after = s.moved n ∧ (n = 0 ↔ reg.Hollow d)) ∧
    (¬ reg.Hollow d → ∀ s, Drains reg type order s (s.drain reg type order) ∧
      (s.drain reg type order).values.length ≤ (s.length - s.cursor).toNat) ∧
    (reg.Hollow d →
      (∃ name r, .register name (.descriptor (.record r)) ∈ requests ∧ r.members = []) ∧
      ∀ (s after : Stream) v, s.cursor < s.length → s.readNext reg type order = .ok (v, after) →
        ∀ drained, ¬ Drains reg type order s drained) := by
  intro reg
  refine ⟨fun s after v ↦ readNext_eq_ok hd, fun hd' s ↦ ?_, fun hollow ↦ ⟨?_, ?_⟩⟩
  · have hadvance : ∀ {s after : Stream} {v}, s.readNext reg type order = .ok (v, after) →
        ∃ n : Nat, after = s.moved n ∧ 0 < n := by
      intro s after v h
      obtain ⟨n, hmoved, hn⟩ := readNext_eq_ok hd h
      exact ⟨n, hmoved, Nat.pos_of_ne_zero (mt hn.1 hd')⟩
    obtain ⟨drained, hdrains, hbound⟩ := exists_drains_of_advance hadvance s
    rw [hdrains.drain_eq hbound]
    exact ⟨hdrains, Nat.le_of_add_right_le hbound⟩
  · obtain ⟨r, hr, hempty⟩ := hollow.exists_empty hd
    rcases empty_of_handleAll hr hempty with hr | ⟨name, hname⟩
    · rw [records_of_new h] at hr
      cases hr
    · exact ⟨name, r, hname, hempty⟩
  · intro s after v hlt hread
    obtain ⟨n, rfl, hn⟩ := readNext_eq_ok hd hread
    rw [hn.2 hollow, Int.natCast_zero, moved_zero] at hread
    exact not_drains_of_readNext hlt hread

def gapType : RecordType :=
  ⟨"Gap", [], by decide, List.nodup_nil⟩

def gapRequests : List Request :=
  [.register "Gap" (.descriptor (.record gapType)), .compile "Gap[3] gaps\nu8 x" "Spaced"]

def behindNext? (reg : Registry) (s : Stream) (type : String) : Option Stream :=
  (s.readNext reg type (.text "big")).toOption.map Prod.snd

theorem behindNext?_eq_some (h : s.behindNext? reg type = some after) :
    ∃ v, s.readNext reg type (.text "big") = .ok (v, after) := by
  rw [behindNext?] at h
  cases hread : s.readNext reg type (.text "big") with
  | error e =>
    rw [hread] at h
    cases h
  | ok result =>
    rw [hread] at h
    cases h
    exact ⟨result.1, rfl⟩

theorem advances_unless_hollow_gaps : (standard = primitive ∨ standard = standard) ∧
    ∃ d, (standard.handleAll gapRequests).find? "Spaced" = some d ∧
      ¬ (standard.handleAll gapRequests).Hollow d ∧
      ∀ s, Drains (standard.handleAll gapRequests) "Spaced" (.text "big") s
        (s.drain (standard.handleAll gapRequests) "Spaced" (.text "big")) := by
  have hsome : ((standard.handleAll gapRequests).find? "Spaced").isSome = true := by
    decide +kernel
  obtain ⟨d, hd⟩ := Option.isSome_iff_exists.1 hsome
  obtain ⟨hmoves, hdrains, -⟩ := advances_unless_hollow (.inr rfl) gapRequests hd (.text "big")
  -- a value takes a byte, so its type is not hollow
  have hbehind : (⟨[7], false, 0, 0⟩ : Stream).behindNext? (standard.handleAll gapRequests)
      "Spaced" = some ⟨[7], false, 0, 1⟩ := by
    decide +kernel
  obtain ⟨v, hread⟩ := behindNext?_eq_some hbehind
  obtain ⟨n, hmoved, hn⟩ := hmoves _ _ v hread
  have hhollow : ¬ (standard.handleAll gapRequests).Hollow d := by
    intro hhollow
    rw [hn.2 hhollow] at hmoved
    cases congrArg cursor hmoved
  exact ⟨.inr rfl, d, hd, hhollow, fun s ↦ (hdrains hhollow s).1⟩

/-- A record type without members is registered. A value of it is read and leaves the cursor where
it is, and there is no end to such values. -/
theorem not_advances_gap :
    ∃ s v, s.readNext (standard.handleAll gapRequests) "Gap" (.text "big") = .ok (v, s) ∧
      ∀ drained, ¬ Drains (standard.handleAll gapRequests) "Gap" (.text "big") s drained := by
  have hbehind : (⟨[7], false, 0, 0⟩ : Stream).behindNext? (standard.handleAll gapRequests)
      "Gap" = some ⟨[7], false, 0, 0⟩ := by
    decide +kernel
  obtain ⟨v, hread⟩ := behindNext?_eq_some hbehind
  exact ⟨_, v, hread, not_drains_of_readNext (by decide) hread⟩

end Stream

end RecordCodec
