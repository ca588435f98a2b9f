import RecordCodec.Proofs.Dataclass.Dependencies
import RecordCodec.Proofs.Schema.Acceptance

namespace RecordCodec

open Schema Text

theorem Schema.Declaration.isName_of_ofLine {text : String} {line : Int} {d : Declaration}
    (h : ofLine text line = .ok d) : IsIdentifier d.typeName.toList ∧ IsName d.name.toList := by
  obtain ⟨-, -, parts, shape, -, hmeans, -, hholds⟩ := ofLine_eq_ok_iff.1 h
  rw [hholds.typeName, hholds.name]
  cases hmeans with
  | single htype hname =>
    rw [Shape.typeName, Shape.name, String.toList_ofList, String.toList_ofList]
    exact ⟨htype, hname⟩
  | array htype _ hname =>
    rw [Shape.typeName, Shape.name, String.toList_ofList, String.toList_ofList]
    exact ⟨htype, hname⟩
  | @divided c _ _ _ _ hname =>
    rw [Shape.name, String.toList_ofList]
    exact ⟨Shape.isIdentifier_container c, hname⟩

namespace Registry

def HasNames (reg : Registry) : Prop :=
  ∀ r ∈ reg.records, ∀ m ∈ r.members, IsIdentifier m.typeName.toList ∧ IsName m.name.toList

theorem HasNames.compile {reg grown : Registry} {text name : String} {r : RecordType}
    (h : reg.HasNames) (hc : reg.compile text name = .ok (r, grown)) : grown.HasNames := by
  obtain ⟨-, -, hg, declarations, hparse, -, hmembers⟩ := compile_eq_ok hc
  intro t ht m hm
  rw [records_of_added hg] at ht
  rcases List.mem_append.1 ht with ht | ht
  · exact h t ht m hm
  · rw [List.mem_singleton.1 ht] at hm
    obtain ⟨d, hd, hmember⟩ := exists_of_forall₂ hmembers hm
    obtain ⟨l, -, hline⟩ := exists_of_forall₂ (parse_eq_ok_iff.1 hparse) hd
    obtain ⟨hname, htype, -⟩ := Declaration.member_eq_ok hmember
    rw [hname, htype]
    exact Declaration.isName_of_ofLine hline

theorem hasNames_attemptAll (schemas : List (String × String)) :
    (standard.attemptAll schemas).HasNames :=
  attemptAll_invariant (fun _ _ _ _ _ hc h ↦ h.compile hc) schemas
    fun _ hr ↦ nomatch (show _ ∈ ([] : List RecordType) from hr)

theorem HasNames.isIdentifier_of_reaches {reg : Registry} {r t : RecordType} (h : reg.HasNames)
    (hreg : reg.WellFormed) (hr : r ∈ reg.records) (hreach : reg.Reaches r t) (hne : t ≠ r) :
    IsIdentifier t.name.toList := by
  rcases Relation.ReflTransGen.cases_tail hreach with rfl | ⟨s, hs, m, hm, hfind⟩
  · exact absurd rfl hne
  · obtain ⟨-, hname⟩ := hreg.mem_records hfind
    rw [hname]
    exact (h s (hreg.rank_le_of_reaches hr hs).1 m hm).1

end Registry

namespace Dataclass

open Registry

section Attributes

variable {name : String}

def plainName (name : String) : String :=
  match name.toList with
  | '#' :: rest => String.ofList ('_' :: rest)
  | _ => name

theorem attributeName_eq (name : String) : attributeName name =
    if plainName name ∈ keywords ∨ plainName name ∈ classMembers then plainName name ++ "_"
    else plainName name :=
  rfl

theorem plainName_of_isIdentifier (h : IsIdentifier name.toList) : plainName name = name := by
  rw [plainName]
  split
  · rename_i rest hname
    rw [hname] at h
    cases h with
    | intro hc _ => cases hc
  · rfl

theorem plainName_of_marked {rest : List Char} (h : name.toList = '#' :: rest) :
    (plainName name).toList = '_' :: rest := by
  rw [plainName, h]
  exact String.toList_ofList

theorem isIdentifier_plainName (h : IsName name.toList) : IsIdentifier (plainName name).toList := by
  generalize htext : name.toList = text at h
  cases h with
  | plain h =>
    rw [← htext] at h
    rwa [plainName_of_isIdentifier h]
  | marked h =>
    rw [plainName_of_marked htext]
    exact .intro (by decide) h.isInner

/-- No name that is taken ends in an underscore, so one more at the end is enough. -/
theorem append_underscore_not_taken (name : String) :
    name ++ "_" ∉ keywords ∧ name ++ "_" ∉ classMembers := by
  have hlast : (name ++ "_").toList.getLast? = some '_' := by
    rw [String.toList_append]
    exact List.getLast?_concat
  have hkeywords : ∀ word ∈ keywords, word.toList.getLast? ≠ some '_' := by decide +kernel
  have hmembers : ∀ word ∈ classMembers, word.toList.getLast? ≠ some '_' := by decide +kernel
  exact ⟨fun h ↦ hkeywords _ h hlast, fun h ↦ hmembers _ h hlast⟩

/-- What may name an attribute: an identifier that neither the language nor the class claims. -/
structure IsAttribute (word : String) : Prop where
  isIdentifier : IsIdentifier word.toList
  not_keyword : word ∉ keywords
  not_member : word ∉ classMembers

theorem isAttribute_attributeName (h : IsName name.toList) : IsAttribute (attributeName name) := by
  have hplain := isIdentifier_plainName h
  rw [attributeName_eq]
  split
  · obtain ⟨hkeyword, hmember⟩ := append_underscore_not_taken (plainName name)
    refine ⟨?_, hkeyword, hmember⟩
    rw [String.toList_append]
    exact hplain.extend (by decide)
  · rename_i hfree
    rw [not_or] at hfree
    exact ⟨hplain, hfree.1, hfree.2⟩

end Attributes

section Characters

variable {c : Char} {text : List Char}

theorem lt_of_isInner (h : Token.isInner c = true) : c.toNat < 128 := by
  have hranges : ((decide (65 ≤ c.val ∧ c.val ≤ 90) ||
      (decide (97 ≤ c.val) && decide (c.val ≤ 122)) ||
      (decide (48 ≤ c.val) && decide (c.val ≤ 57))) || c == '_') = true := h
  have hend {last : UInt32} (hlast : c.val ≤ last) (hsmall : last.toNat < 128) :
      c.toNat < 128 :=
    (UInt32.le_iff_toNat_le.1 hlast).trans_lt hsmall
  simp only [Bool.or_eq_true, Bool.and_eq_true, decide_eq_true_eq, beq_iff_eq] at hranges
  rcases hranges with ((hupper | hlower) | hdigit) | rfl
  · exact hend hupper.2 (by decide)
  · exact hend hlower.2 (by decide)
  · exact hend hdigit.2 (by decide)
  · decide

theorem isInner_iff : Token.isInner c = true ↔ isWord c = true ∧ c.toNat < 128 := by
  have hsame (hsmall : c.toNat < 128) : isWord c = Token.isInner c := by
    rw [isWord, if_pos hsmall, Token.isInner, Bool.or_comm]
  constructor
  · intro h
    have hsmall := lt_of_isInner h
    exact ⟨(hsame hsmall).trans h, hsmall⟩
  · rintro ⟨h, hsmall⟩
    exact (hsame hsmall).symm.trans h

theorem isInitial_ofNat : ∀ n : Fin 128, Token.isInner (Char.ofNat n) = true →
    Token.isInitial (Char.ofNat n) = !isDigit (Char.ofNat n) := by
  decide +kernel

theorem isInitial_iff : Token.isInitial c = true ↔ Token.isInner c = true ∧ isDigit c = false := by
  have hdigit (h : Token.isInner c = true) : Token.isInitial c = !isDigit c := by
    have := isInitial_ofNat ⟨c.toNat, lt_of_isInner h⟩
    rw [Char.ofNat_toNat] at this
    exact this h
  constructor
  · intro h
    have hinner := isInner_of_isInitial h
    rw [hdigit hinner] at h
    exact ⟨hinner, Bool.not_eq_true' _ ▸ h⟩
  · rintro ⟨hinner, h⟩
    rw [hdigit hinner, h]
    rfl

/-- Word characters that do not begin with a digit. -/
inductive IsIdentifierLike : List Char → Prop
  | intro {c : Char} {rest : List Char} (hc : isWord c = true) (hdigit : isDigit c = false)
    (hrest : ∀ d ∈ rest, isWord d = true) : IsIdentifierLike (c :: rest)

theorem IsIdentifierLike.isWord (h : IsIdentifierLike text) : ∀ c ∈ text, isWord c = true := by
  cases h with
  | intro hc _ hrest => exact List.forall_mem_cons.2 ⟨hc, hrest⟩

theorem IsIdentifierLike.of_isIdentifier (h : IsIdentifier text) : IsIdentifierLike text := by
  cases h with
  | intro hc hrest =>
    obtain ⟨hinner, hdigit⟩ := isInitial_iff.1 hc
    exact .intro (isInner_iff.1 hinner).1 hdigit fun d hd ↦ (isInner_iff.1 (hrest d hd)).1

theorem IsIdentifierLike.isIdentifier_iff (h : IsIdentifierLike text) :
    IsIdentifier text ↔ ∀ c ∈ text, c.toNat < 128 := by
  cases h with
  | @intro c rest hc hdigit hrest =>
    constructor
    · intro h d hd
      exact (isInner_iff.1 (h.isInner d hd)).2
    · intro h
      obtain ⟨hsmall, hsmalls⟩ := List.forall_mem_cons.1 h
      exact .intro (isInitial_iff.2 ⟨isInner_iff.2 ⟨hc, hsmall⟩, hdigit⟩)
        fun d hd ↦ isInner_iff.2 ⟨hrest d hd, hsmalls d hd⟩

end Characters

section Classes

variable {c : Char} {name word : String}

def classChar (c : Char) : Char :=
  if isWord c then c else '_'

theorem classChar_of_isWord (h : isWord c = true) : classChar c = c :=
  if_pos h

theorem isWord_classChar (c : Char) : isWord (classChar c) = true := by
  rw [classChar]
  split
  · assumption
  · decide

def classBody (name : String) : List Char :=
  name.toList.map classChar

theorem toList_className (name : String) : (className name).toList =
    if (classBody name).head?.all isDigit then '_' :: classBody name else classBody name := by
  rw [classBody, className]
  generalize hbody : name.toList.map (fun c ↦ if isWord c then c else '_') = body
  have hbody : name.toList.map classChar = body := hbody
  rw [hbody]
  cases body with
  | nil => rfl
  | cons c rest => by_cases hc : isDigit c = true <;> simp [hc]

theorem isIdentifierLike_className (name : String) : IsIdentifierLike (className name).toList := by
  have hbody : ∀ c ∈ classBody name, isWord c = true := by
    intro c hc
    obtain ⟨d, -, rfl⟩ := List.mem_map.1 hc
    exact isWord_classChar d
  rw [toList_className]
  split
  · exact .intro (by decide) (by decide) hbody
  · rename_i hmark
    generalize classBody name = body at hbody hmark
    cases body with
    | nil => exact absurd rfl hmark
    | cons c rest =>
      obtain ⟨hc, hrest⟩ := List.forall_mem_cons.1 hbody
      exact .intro hc (Bool.eq_false_iff.2 hmark) hrest

theorem isIdentifier_className_iff (name : String) :
    IsIdentifier (className name).toList ↔
      ∀ c ∈ name.toList, isWord c = true → c.toNat < 128 := by
  rw [(isIdentifierLike_className name).isIdentifier_iff, toList_className]
  have hmark : ('_' : Char).toNat < 128 := by decide
  have hbody : (∀ c ∈ classBody name, c.toNat < 128) ↔
      ∀ c ∈ name.toList, isWord c = true → c.toNat < 128 := by
    rw [classBody, List.forall_mem_map]
    refine forall₂_congr fun c _ ↦ ?_
    rw [classChar]
    split
    · rename_i hc
      exact ⟨fun h _ ↦ h, fun h ↦ h hc⟩
    · rename_i hc
      exact ⟨fun _ hc' ↦ absurd hc' hc, fun _ ↦ hmark⟩
  split
  · rw [List.forall_mem_cons, hbody]
    exact and_iff_right hmark
  · exact hbody

theorem classBody_of_isWord (h : ∀ c ∈ name.toList, isWord c = true) :
    classBody name = name.toList := by
  rw [classBody, List.map_congr_left fun c hc ↦ classChar_of_isWord (h c hc)]
  exact List.map_id _

theorem className_of_isIdentifierLike (h : IsIdentifierLike name.toList) :
    className name = name := by
  rw [← String.toList_inj, toList_className, classBody_of_isWord h.isWord]
  generalize name.toList = text at h
  cases h with
  | intro _ hdigit _ => exact if_neg (Bool.eq_false_iff.1 hdigit)

theorem className_eq_iff (hword : IsIdentifierLike word.toList) (hplain : '_' ∉ word.toList) :
    className name = word ↔ name = word := by
  constructor
  · intro h
    have htext := toList_className name
    rw [h] at htext
    split at htext
    · exact absurd (htext ▸ List.mem_cons_self) hplain
    -- whatever is replaced would leave an underscore behind
    · have hchars : ∀ c ∈ name.toList, isWord c = true := by
        intro c hc
        by_contra hnot
        refine hplain (htext ▸ List.mem_map.2 ⟨c, hc, ?_⟩)
        rw [classChar, if_neg hnot]
      rw [classBody_of_isWord hchars] at htext
      exact (String.toList_inj.1 htext).symm
  · intro h
    rw [h]
    exact className_of_isIdentifierLike hword

theorem className_mem_iff {words : List String}
    (hwords : ∀ word ∈ words, className word = word ∧ '_' ∉ word.toList) :
    className name ∈ words ↔ name ∈ words := by
  constructor
  · intro h
    have hword := isIdentifierLike_className name
    rwa [(className_eq_iff hword (hwords _ h).2).1 rfl]
  · intro h
    rwa [(hwords name h).1]

end Classes

/-- The names that a generated module takes from other modules. -/
def imported (runtime : String) : List (String × List String) :=
  [("dataclasses", ["dataclass"]), ("typing", ["Any", "ClassVar", "Self"]),
    (runtime, ["Bitfield", "EncodeError", "Endianness", "OutOfBounds", "StructCodec"])]

def importLine (source : String × List String) : String :=
  "from " ++ source.1 ++ " import " ++ ", ".intercalate source.2

def importedNames : List String :=
  (imported defaultRuntime).flatMap Prod.snd

theorem importLines_moduleHead (root runtime : String) :
    ((imported runtime).map importLine).Sublist (moduleHead root runtime) := by
  have hcodec : importLine (runtime,
      ["Bitfield", "EncodeError", "Endianness", "OutOfBounds", "StructCodec"]) =
      "from " ++ runtime ++
        " import Bitfield, EncodeError, Endianness, OutOfBounds, StructCodec" := by
    rw [importLine, String.append_assoc]
    congr 1
  have hlines : (imported runtime).map importLine = ["from dataclasses import dataclass",
      "from typing import Any, ClassVar, Self", "from " ++ runtime ++
        " import Bitfield, EncodeError, Endianness, OutOfBounds, StructCodec"] := by
    rw [← hcodec]
    rfl
  rw [hlines, moduleHead]
  exact .cons _ (.cons _ (.cons_cons _ (.cons_cons _ (.cons _ (.cons_cons _ .slnil)))))

theorem classLine_mem_classLines (found : List Placement) (p : Placement) :
    "class " ++ className p.name ++ ":" ∈ classLines found p := by
  simp [classLines, classHead]

theorem className_mem_keywords_iff (name : String) : className name ∈ keywords ↔ name ∈ keywords :=
  className_mem_iff (by decide +kernel)

theorem className_mem_importedNames_iff (name : String) :
    className name ∈ importedNames ↔ name ∈ importedNames :=
  className_mem_iff (by decide +kernel)

/-- A class is called by word characters, the first of them no digit: by an identifier unless they
are of other scripts. What a record type is called decides whether that name is taken, and only the
record type that was asked for is called by anything but an identifier. -/
theorem classNames_of_render (schemas : List (String × String)) {record runtime text : String}
    {r : RecordType} (hr : (standard.attemptAll schemas).find? record = some (.record r))
    (h : render (standard.attemptAll schemas) r runtime = .ok text) :
    ∃ records, collect (standard.attemptAll schemas) r = .ok (placements records) ∧
      (∀ t, t ∈ records ↔ (standard.attemptAll schemas).Reaches r t) ∧
      text = unlines (moduleHead r.name runtime ++
        (placements records).flatMap (classLines (placements records))) ∧
      ((imported runtime).map importLine).Sublist (moduleHead r.name runtime) ∧
      ∀ t ∈ records,
        "class " ++ className t.name ++ ":" ∈ classLines (placements records) (.ofRecord t) ∧
        IsIdentifierLike (className t.name).toList ∧
        (IsIdentifier (className t.name).toList ↔
          ∀ c ∈ t.name.toList, isWord c = true → c.toNat < 128) ∧
        (className t.name ∈ keywords ↔ t.name ∈ keywords) ∧
        (className t.name ∈ importedNames ↔ t.name ∈ importedNames) ∧
        (t ≠ r → IsIdentifier t.name.toList ∧ className t.name = t.name) := by
  have hreg := wellFormed_attemptAll schemas
  obtain ⟨hmem, -⟩ := hreg.mem_records hr
  obtain ⟨records, hcollect, -, hreaches, -⟩ := exists_collect hreg hmem
  refine ⟨records, hcollect, hreaches, (render_eq_ok hcollect h).2, importLines_moduleHead _ _,
    fun t ht ↦ ⟨classLine_mem_classLines _ _, isIdentifierLike_className _,
      isIdentifier_className_iff _, className_mem_keywords_iff _,
      className_mem_importedNames_iff _, fun hne ↦ ?_⟩⟩
  have hidentifier := (hasNames_attemptAll schemas).isIdentifier_of_reaches hreg hmem
    ((hreaches t).1 ht) hne
  exact ⟨hidentifier, className_of_isIdentifierLike (.of_isIdentifier hidentifier)⟩

def rendersClasses (names : List String) (found : List Placement) : Bool :=
  found.map (className ·.name) == names && (checkNames [] found).isOk &&
    found.all Placement.isWritable

theorem exists_of_rendersClasses {reg : Registry} {names : List String} {record : String}
    (h : (reg.find? record).any (collects reg (rendersClasses names)) = true) :
    ∃ (r : RecordType) (text : String) (found : List Placement),
      reg.find? record = some (.record r) ∧ render reg r defaultRuntime = .ok text ∧
      collect reg r = .ok found ∧ found.map (className ·.name) = names := by
  obtain ⟨r, found, hr, hfound, hrenders⟩ := exists_of_collects h
  rw [rendersClasses, Bool.and_eq_true, Bool.and_eq_true, beq_iff_eq] at hrenders
  obtain ⟨⟨hnames, hok⟩, hwritable⟩ := hrenders
  obtain ⟨_, hok⟩ := exists_of_isOk hok
  have htext := render_of_collect defaultRuntime hfound
  rw [hok, ok_bind, if_pos hwritable] at htext
  exact ⟨r, _, found, hr, htext, hfound, hnames⟩

def oddlyNamed : List (String × String) :=
  [("u8 x", "Bitfield"), ("Bitfield[2] inner\nu16 #pad", "9 lives")]

theorem classNames_of_render_oddlyNamed :
    ∃ (r : RecordType) (text : String) (records : List RecordType),
    (standard.attemptAll oddlyNamed).find? "9 lives" = some (.record r) ∧
    render (standard.attemptAll oddlyNamed) r defaultRuntime = .ok text ∧
    collect (standard.attemptAll oddlyNamed) r = .ok (placements records) ∧
    (placements records).map (className ·.name) = ["Bitfield", "_9_lives"] ∧
    (∀ t ∈ records, className t.name ∈ importedNames ↔ t.name ∈ importedNames) ∧
    "Bitfield" ∈ importedNames := by
  have h : ((standard.attemptAll oddlyNamed).find? "9 lives").any
      (collects (standard.attemptAll oddlyNamed) (rendersClasses ["Bitfield", "_9_lives"])) =
        true := by
    decide +kernel
  obtain ⟨r, text, found, hr, htext, hfound, hnames⟩ := exists_of_rendersClasses h
  obtain ⟨records, hrecords, -, -, -, hclasses⟩ := classNames_of_render oddlyNamed hr htext
  cases hfound.symm.trans hrecords
  exact ⟨r, text, records, hr, htext, hrecords, hnames,
    fun t ht ↦ (hclasses t ht).2.2.2.2.1, by decide +kernel⟩

/-- A record type that is called by a keyword has a class that is called by it too. -/
theorem render_keyword : ∃ (r : RecordType) (text : String) (found : List Placement),
    (standard.attemptAll [("u8 a", "class")]).find? "class" = some (.record r) ∧
    render (standard.attemptAll [("u8 a", "class")]) r defaultRuntime = .ok text ∧
    text = unlines (moduleHead r.name defaultRuntime ++ found.flatMap (classLines found)) ∧
    "class class:" ∈ found.flatMap (classLines found) ∧ "class" ∈ keywords := by
  have h : ((standard.attemptAll [("u8 a", "class")]).find? "class").any
      (collects (standard.attemptAll [("u8 a", "class")]) (rendersClasses ["class"])) = true := by
    decide +kernel
  obtain ⟨r, text, found, hr, htext, hfound, hnames⟩ := exists_of_rendersClasses h
  refine ⟨r, text, found, hr, htext, (render_eq_ok hfound htext).2, ?_, by decide⟩
  obtain ⟨p, rfl, hp⟩ := List.map_eq_singleton_iff.1 hnames
  refine List.mem_flatMap.2 ⟨p, List.mem_cons_self, ?_⟩
  have hline := classLine_mem_classLines [p] p
  rwa [hp] at hline

end Dataclass

end RecordCodec
