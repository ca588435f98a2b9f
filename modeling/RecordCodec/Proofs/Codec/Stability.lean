import RecordCodec.Dataclass.Source
import RecordCodec.Proofs.Codec.RoundTrip
import RecordCodec.Proofs.Registry.Nesting
import RecordCodec.Proofs.Registry.Requests

namespace RecordCodec

namespace Registry

variable {reg grown : Registry} {d : Descriptor} {options : Value} {n : Nat} {x : Expansion}

theorem expandMember_of_grown (h : reg.entries <+: grown.entries)
    {expand expand' : Descriptor → Value → Option Expansion} {m : Member}
    {entry : String × Expansion}
    (himp : ∀ d options x, expand d options = some x → expand' d options = some x)
    (hm : reg.expandMember expand m = some entry) : grown.expandMember expand' m = some entry := by
  obtain ⟨d, x, hd, hx, rfl⟩ := expandMember_eq_some hm
  simp [expandMember, find?_of_grown h hd, himp d m.options x hx]

theorem expandWithin_of_grown (h : reg.entries <+: grown.entries)
    (hx : reg.expandWithin n d options = some x) : grown.expandWithin n d options = some x := by
  induction n generalizing d options x with
  | zero => cases hx
  | succ n ih =>
    cases d with
    | scalar t => exact hx
    | record r =>
      obtain ⟨members, rfl, hm⟩ := expandWithin_record hx
      have hm' := hm.imp fun _ _ ↦ expandMember_of_grown h fun d options x hx ↦ ih hx
      simp [expandWithin, mapM_eq_some.2 hm']

theorem expansion?_of_grown (h : reg.entries <+: grown.entries)
    (hx : reg.expansion? d options = some x) : grown.expansion? d options = some x := by
  have hsize := size_le_of_grown h
  refine expandWithin_of_le (expandWithin_of_grown h hx) ?_
  simp only [nestingBound]
  omega

end Registry

open Registry

namespace Codec

variable {reg grown : Registry} {r : RecordType} {record : String} {x : Expansion}

theorem read_of_grown (h : reg.entries <+: grown.entries)
    (hr : reg.find? record = some (.record r)) (hx : reg.expansion? (.record r) .none = some x)
    (buffer : Buffer) (position order : Value) :
    read grown buffer position record order = read reg buffer position record order := by
  have hlookup := lookupRecord_of_find? (find?_of_grown h hr)
  simp only [read, hlookup, lookupRecord_of_find? hr, ok_bind, readAt,
    readNested_eq _ (expansion?_of_grown h hx), readNested_eq _ hx]

theorem write_of_grown (h : reg.entries <+: grown.entries)
    (hr : reg.find? record = some (.record r)) (hx : reg.expansion? (.record r) .none = some x)
    (buffer : Buffer) (position : Value) (s : Source) (order : Value) :
    write grown buffer position record s order = write reg buffer position record s order := by
  have hlookup := lookupRecord_of_find? (find?_of_grown h hr)
  simp only [write, hlookup, lookupRecord_of_find? hr, ok_bind, writeAt,
    writeNested_eq (expansion?_of_grown h hx), writeNested_eq hx]

end Codec

namespace Dataclass

variable {reg grown : Registry} {r : RecordType} {n n' : Nat}

theorem foldlM_congr {α β : Type} {f g : β → α → Except Error β} {items : List α}
    (h : ∀ b, ∀ a ∈ items, f b a = g b a) (b : β) : items.foldlM f b = items.foldlM g b := by
  induction items generalizing b with
  | nil => rfl
  | cons a rest ih =>
    have hrest (c : β) : rest.foldlM f c = rest.foldlM g c :=
      ih (fun b a ha ↦ h b a (List.mem_cons_of_mem _ ha)) c
    simp only [List.foldlM_cons, h b a List.mem_cons_self, hrest]

/-- Beyond the place of the record type, neither the bound nor later types make a difference. -/
theorem collectWithin_of_grown (hreg : reg.WellFormed) (h : reg.entries <+: grown.entries)
    (hr : r ∈ reg.records) (hn : reg.rank r.name < n) (hn' : reg.rank r.name < n')
    (found : List Placement) : collectWithin grown n' r found = collectWithin reg n r found := by
  induction n generalizing n' r found with
  | zero => omega
  | succ n ih =>
    cases n' with
    | zero => omega
    | succ n' =>
      rw [collectWithin, collectWithin]
      split
      · rfl
      · congr 1
        apply foldlM_congr
        intro found m hm
        have hs := hreg.supported r hr m hm
        obtain ⟨d, hd, -⟩ := hs.sized
        have hrank := hs.rank_lt
        rw [Codec.lookup_of_find? hd, Codec.lookup_of_find? (find?_of_grown h hd)]
        cases d with
        | scalar t => rfl
        | record inner =>
          obtain ⟨hinner, hname⟩ := hreg.mem_records hd
          rw [← hname] at hrank
          simp only [ih hinner (Nat.lt_of_lt_of_le hrank (Nat.le_of_lt_succ hn))
            (Nat.lt_of_lt_of_le hrank (Nat.le_of_lt_succ hn'))]

theorem render_of_grown (hreg : reg.WellFormed) (h : reg.entries <+: grown.entries)
    (hr : r ∈ reg.records) (runtime : String) : render grown r runtime = render reg r runtime := by
  have hrank := rank_lt_size (mem_names_of_find? (hreg.find?_record hr))
  have hsize := size_le_of_grown h
  have hcollect : collect grown r = collect reg r :=
    collectWithin_of_grown hreg h hr (by omega) (by omega) []
  rw [render, render, hcollect]

end Dataclass

namespace Codec

theorem unchanged_by_later_requests (schemas : List (String × String)) (requests : List Request)
    {record : String} {r : RecordType}
    (hr : (standard.attemptAll schemas).find? record = some (.record r)) :
    let reg := standard.attemptAll schemas
    let grown := reg.handleAll requests
    (∀ buffer position order,
      read grown buffer position record order = read reg buffer position record order) ∧
    (∀ buffer position s order,
      write grown buffer position record s order = write reg buffer position record s order) ∧
    (grown.lookupRecord record).map Placement.ofRecord =
      (reg.lookupRecord record).map Placement.ofRecord ∧
    ∀ runtime, Dataclass.render grown r runtime = Dataclass.render reg r runtime := by
  intro reg grown
  have hreg : reg.WellFormed := wellFormed_attemptAll schemas
  have hprefix : reg.entries <+: grown.entries := reg.prefix_handleAll requests
  obtain ⟨hmem, -⟩ := hreg.mem_records hr
  obtain ⟨x, hx, -, -⟩ := exists_expansion schemas hr
  refine ⟨read_of_grown hprefix hr hx, write_of_grown hprefix hr hx, ?_, ?_⟩
  · rw [lookupRecord_of_find? hr, lookupRecord_of_find? (find?_of_grown hprefix hr)]
  · exact Dataclass.render_of_grown hreg hprefix hmem

def loopType : RecordType where
  name := "Loop"
  members := [⟨"Loop", "next", 18, 1, none, Nat.one_pos⟩]
  name_ne := by decide
  nodup := by decide

def laterRequests : List Request :=
  [.register "Loop" (.descriptor (.record loopType)), .compile "u8 other" "Row",
    .register "Other" (.value "int"), .compile "Row[3] rows" "Page"]

theorem unchanged_by_later_requests_row : ∃ r,
    (standard.attemptAll rowSchemas).find? "Row" = some (.record r) ∧
    ((standard.attemptAll rowSchemas).handleAll laterRequests).names.drop 17 =
      ["Cell", "Row", "Loop", "Page"] ∧
    (∀ position, read ((standard.attemptAll rowSchemas).handleAll laterRequests)
        (.flat rowBytes false) position "Row" (.text "big") =
      read (standard.attemptAll rowSchemas) (.flat rowBytes false) position "Row" (.text "big")) ∧
    Dataclass.render ((standard.attemptAll rowSchemas).handleAll laterRequests) r "codec" =
      Dataclass.render (standard.attemptAll rowSchemas) r "codec" := by
  obtain ⟨r, hr, -⟩ := find?_row
  obtain ⟨hread, -, -, hrender⟩ := unchanged_by_later_requests rowSchemas laterRequests hr
  refine ⟨r, hr, ?_, fun position ↦ hread _ position _, hrender "codec"⟩
  decide +kernel

end Codec

end RecordCodec
