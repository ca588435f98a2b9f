import RecordCodec.Command.Run
import RecordCodec.Proofs.Codec.Projection
import RecordCodec.Proofs.Expansion.Plain

namespace RecordCodec.Codec

open Expansion Registry

variable {reg : Registry} {data : Bytes} {record : String} {order : ByteOrder} {v : Value}
  {d : Document}

theorem showRecord_eq {p : Nat}
    (hread : read reg (.flat data false) (.int p) record order.toValue = .ok v)
    (hd : d.Holds v.project) :
    Command.showRecord reg data record p order = .ok ⟨d.print ++ "\n", none, none⟩ := by
  have hdocument : Document.ofValue? v.project = some d := by
    rw [← hd.toValue_eq, d.ofValue?_toValue]
  have hline : Command.documentLine d = .ok (d.print ++ "\n") := if_pos hd.writable
  rw [Command.showRecord, hread]
  simp only [Command.refuse, Except.mapError, bind, Except.bind, hdocument, hline]
  rfl

/-- What is shown of a record is plain, with doubles that may be anything. Its text is read again
exactly if the doubles are finite. -/
theorem shows_document (schemas : List (String × String)) {r : RecordType}
    (hr : (standard.attemptAll schemas).find? record = some (.record r)) :
    ∃ x, (standard.attemptAll schemas).expansion? (.record r) .none = some x ∧
      ∀ (order : ByteOrder) (data : Bytes) (writable : Bool) (position : Value) (p : Nat),
        Position.ofValue position = .ok p → (p : Int) + r.size ≤ data.length →
        ∃ v d text, read (standard.attemptAll schemas) (.flat data writable) position record
            order.toValue = .ok v ∧
          v.project.IsPlain (fun _ ↦ True) ∧ d.toValue = v.project ∧
          Command.showRecord (standard.attemptAll schemas) data record p order =
            .ok ⟨text, none, none⟩ ∧
          (v.project.IsPlain (fun y ↦ y.isFinite = true) ↔ x.HasFiniteFloats order data p) ∧
          (x.HasFiniteFloats order data p → Document.parse text = some d) ∧
          (¬ x.HasFiniteFloats order data p → Document.parse text = none) := by
  obtain ⟨x, hx, hsound, hsize⟩ := exists_expansion schemas hr
  refine ⟨x, hx, ?_⟩
  intro order data writable position p hpos hp
  have hfit : p + x.size ≤ data.length := by omega
  obtain ⟨v, hread, hplain⟩ := exists_read_plain order data x hsound p hfit
  have hfinite : v.project.IsPlain (fun y ↦ y.isFinite = true) ↔ x.HasFiniteFloats order data p :=
    (hplain _).trans (hasFiniteFloats_iff hfit).symm
  have hany : v.project.IsPlain fun _ ↦ True :=
    (hplain _).2 fun _ _ _ _ _ ↦ trivial
  obtain ⟨d, hd⟩ := Document.exists_holds hany
  have hshow := showRecord_eq (read_eq_ok hr hx hp (ofValue_natCast p) hread false) hd
  have hparse := d.parse_print_line
  refine ⟨v, d, _, read_eq_ok hr hx hp hpos hread writable, hany, hd.toValue_eq, hshow, hfinite, ?_,
    ?_⟩
  · intro h
    rwa [if_pos (hd.finite_iff.2 (hfinite.2 h))] at hparse
  · intro h
    rwa [if_neg fun hd' ↦ h (hfinite.1 (hd.finite_iff.1 hd'))] at hparse

theorem exists_of_any_toOption {ε α : Type} {x : Except ε α} {p : α → Bool}
    (h : x.toOption.any p = true) : ∃ a, x = .ok a ∧ p a = true := by
  cases x with
  | error e => cases h
  | ok a => exact ⟨a, rfl, h⟩

def finiteRowBytes : Bytes :=
  [0, 0, 0, 1, 0xFF, 0xFE, 0x3F, 0xC0, 0, 0, 0xA7, 0, 1, 0xC0, 0, 0, 0, 0x55]

theorem not_hasFiniteFloats_rowBytes : ¬ rowExpansion.HasFiniteFloats .big rowBytes 1 := by
  intro h
  have hplace : rowExpansion.places[5]? =
      some ⟨13, .single, .none, [.member "cells", .element 2 1, .member "level"]⟩ := rfl
  have hpublic : Value.isReservedName "cells" = false ∧ Value.isReservedName "level" = false := by
    decide +kernel
  have hfinite := h _ (List.mem_of_getElem? hplace)
    (by simpa [Step.IsPublic] using hpublic)
  revert hfinite
  decide +kernel

theorem shows_document_row :
    (∃ v d text, read (standard.attemptAll rowSchemas) (.flat finiteRowBytes false) (.int 0) "Row"
        (.text "big") = .ok v ∧ d.toValue = v.project ∧
      Command.showRecord (standard.attemptAll rowSchemas) finiteRowBytes "Row" 0 .big =
        .ok ⟨text, none, none⟩ ∧ Document.parse text = some d) ∧
    ∃ v text, read (standard.attemptAll rowSchemas) (.flat rowBytes false) (.int 1) "Row"
        (.text "big") = .ok v ∧ ¬ v.project.IsPlain (fun y ↦ y.isFinite = true) ∧
      Command.showRecord (standard.attemptAll rowSchemas) rowBytes "Row" 1 .big =
        .ok ⟨text, none, none⟩ ∧ Document.parse text = none := by
  obtain ⟨r, hr, hsize, hrow⟩ := find?_row
  obtain ⟨x, hx, h⟩ := shows_document rowSchemas hr
  cases hrow.symm.trans hx
  constructor
  · obtain ⟨v, d, text, hread, -, hd, hshow, -, hparse, -⟩ :=
      h .big finiteRowBytes false (.int 0) 0 rfl (by rw [hsize]; decide)
    have hfinite : ∀ place ∈ rowExpansion.places,
        place.leaf.IsFinite .big (place.window finiteRowBytes 0) := by
      decide +kernel
    exact ⟨v, d, text, hread, hd, hshow, hparse fun place hp _ ↦ hfinite place hp⟩
  · obtain ⟨v, d, text, hread, -, -, hshow, hplain, -, hparse⟩ :=
      h .big rowBytes false (.int 1) 1 rfl (by rw [hsize]; decide)
    exact ⟨v, text, hread, fun hfinite ↦ not_hasFiniteFloats_rowBytes (hplain.1 hfinite), hshow,
      hparse not_hasFiniteFloats_rowBytes⟩

def infiniteBytes : Bytes :=
  [0x7F, 0xF0, 0, 0, 0, 0, 0, 0]

def infiniteText : String :=
  "\x7b\n  \"x\": Infinity\n\x7d\n"

def showsInfinity : Value → Bool
  | .dict [("x", .float y)] => y.isInfinite
  | _ => false

theorem not_isPlain_of_showsInfinity (h : showsInfinity v = true) :
    ¬ v.IsPlain (fun y ↦ y.isFinite = true) := by
  unfold showsInfinity at h
  split at h
  · rename_i y
    intro hplain
    have hstep : (Value.dict [("x", .float y)]).step? (.member "x") = some (.float y) := rfl
    have hfinite := Value.isPlain_float_iff.1 (hplain.step? hstep)
    rw [Binary64.isInfinite, beq_iff_eq] at h
    rw [Binary64.isFinite, h, decide_eq_true_eq] at hfinite
    exact Nat.lt_irrefl _ hfinite
  · cases h

/-- Of an infinite double a word is printed that JSON does not know. -/
theorem showRecord_infinite : ∃ v,
    read (standard.attemptAll [("double x", "P")]) (.flat infiniteBytes false) (.int 0) "P"
      (.text "big") = .ok v ∧
    ¬ v.project.IsPlain (fun y ↦ y.isFinite = true) ∧
    Command.showRecord (standard.attemptAll [("double x", "P")]) infiniteBytes "P" 0 .big =
      .ok ⟨infiniteText, none, none⟩ ∧
    Document.parse infiniteText = none := by
  have hvalue : (read (standard.attemptAll [("double x", "P")]) (.flat infiniteBytes false) (.int 0)
      "P" (.text "big")).toOption.any (showsInfinity ·.project) = true := by
    decide +kernel
  have hproduct : (Command.showRecord (standard.attemptAll [("double x", "P")]) infiniteBytes "P" 0
      .big).toOption.any (fun p ↦ p.output == infiniteText && p.file?.isNone && p.halt?.isNone) =
        true := by
    decide +kernel
  have hparse : (Document.parse infiniteText).isNone = true := by
    decide +kernel
  obtain ⟨v, hv, hshows⟩ := exists_of_any_toOption hvalue
  obtain ⟨⟨output, file?, halt?⟩, hp, hfields⟩ := exists_of_any_toOption hproduct
  simp only [Bool.and_eq_true, beq_iff_eq, Option.isNone_iff_eq_none] at hfields
  obtain ⟨⟨rfl, rfl⟩, rfl⟩ := hfields
  exact ⟨v, hv, not_isPlain_of_showsInfinity hshows, hp, Option.isNone_iff_eq_none.1 hparse⟩

end RecordCodec.Codec
