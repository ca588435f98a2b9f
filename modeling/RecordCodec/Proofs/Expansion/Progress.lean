import RecordCodec.Proofs.Expansion.Codec
import RecordCodec.Proofs.Expansion.Places

namespace RecordCodec.Expansion

/-- How far writing leaves gets, where `f` gives the bytes of each, and `Blamed` says which error
may end it at a leaf with which bytes left there. -/
inductive Progress (f : Place → Option Bytes) (Blamed : Place → Error → Bytes → Prop)
    (places : List Place) (data : Bytes) (start : Nat) : EStateM.Result Error Bytes Nat → Prop
  | completed {blocks : List Bytes} :
      places.map f = blocks.map some → Progress f Blamed places data start
        (.ok blocks.flatten.length (Window.set data start blocks.flatten))
  | halted {e : Error} {done : List Place} {place : Place} {rest : List Place}
      {blocks : List Bytes} {left : Bytes} : places = done ++ place :: rest →
      done.map f = blocks.map some → Blamed place e left → Progress f Blamed places data start
        (.error e (Window.set data start (blocks.flatten ++ left)))

namespace Progress

variable {f g : Place → Option Bytes} {Blamed Blamed' : Place → Error → Bytes → Prop}
  {places places' : List Place} {data : Bytes} {start : Nat} {r : EStateM.Result Error Bytes Nat}

theorem nil (f : Place → Option Bytes) (Blamed : Place → Error → Bytes → Prop) (data : Bytes)
    (start : Nat) : Progress f Blamed [] data start (.ok 0 data) := by
  have h : Progress f Blamed [] data start (.ok 0 (Window.set data start [])) :=
    @completed f Blamed [] data start [] rfl
  rwa [Window.set_nil] at h

theorem head {place : Place} {e : Error} {left : Bytes} (h : Blamed place e left)
    (rest : List Place) :
    Progress f Blamed (place :: rest) data start (.error e (Window.set data start left)) :=
  @halted f Blamed _ data start e [] place rest [] left rfl rfl h

theorem fail {e : Error} (hne : places ≠ []) (h : ∀ place ∈ places, Blamed place e []) :
    Progress f Blamed places data start (.error e data) := by
  cases places with
  | nil => contradiction
  | cons place rest =>
    have hhead : Progress f Blamed (place :: rest) data start
        (.error e (Window.set data start [])) :=
      head (h place List.mem_cons_self) rest
    rwa [Window.set_nil] at hhead

theorem map (h : Progress f Blamed places data start r) {k : Place → Place}
    (hfg : ∀ place ∈ places, g (k place) = f place)
    (hblamed : ∀ place ∈ places, ∀ e left, Blamed place e left → Blamed' (k place) e left) :
    Progress g Blamed' (places.map k) data start r := by
  cases h with
  | completed hall =>
    refine completed ?_
    rw [List.map_map, ← hall]
    exact List.map_congr_left hfg
  | @halted e done place rest blocks left hplaces hdone h =>
    subst hplaces
    refine halted (List.map_append.trans (congrArg _ List.map_cons)) ?_
      (hblamed place (List.mem_append_right _ List.mem_cons_self) e left h)
    rw [List.map_map, ← hdone]
    exact List.map_congr_left fun p hp ↦ hfg p (List.mem_append_left _ hp)

theorem congr (h : Progress f Blamed places data start r)
    (hfg : ∀ place ∈ places, g place = f place)
    (hblamed : ∀ place ∈ places, ∀ e left, Blamed place e left → Blamed' place e left) :
    Progress g Blamed' places data start r := by
  have := h.map (k := id) hfg hblamed
  rwa [List.map_id] at this

theorem seq {x : WriteM Nat} {y : Nat → WriteM Nat} (hstart : start ≤ data.length)
    (hx : Progress f Blamed places data start (x.run data))
    (hy : ∀ blocks : List Bytes, places.map f = blocks.map some →
      Progress f Blamed places' (Window.set data start blocks.flatten)
        (start + blocks.flatten.length)
        ((y blocks.flatten.length).run (Window.set data start blocks.flatten))) :
    Progress f Blamed (places ++ places') data start
      ((do let size ← x; let total ← y size; return size + total : WriteM Nat).run data) := by
  rw [EStateM.run_bind]
  generalize x.run data = first at hx ⊢
  cases hx with
  | @halted e done place rest blocks left hplaces hdone h =>
    exact halted (by rw [hplaces, List.append_assoc, List.cons_append]) hdone h
  | @completed blocks hall =>
    have hsecond := hy blocks hall
    simp only [EStateM.run_bind]
    generalize (y blocks.flatten.length).run _ = second at hsecond ⊢
    cases hsecond with
    | @halted e done place rest blocks' left hplaces hdone h =>
      rw [Window.set_set hstart, ← List.append_assoc, ← List.flatten_append]
      refine halted (by rw [hplaces, List.append_assoc]) ?_ h
      rw [List.map_append, List.map_append, hall, hdone]
    | @completed blocks' hall' =>
      have h : Progress f Blamed (places ++ places') data start
          (.ok (blocks ++ blocks').flatten.length
            (Window.set data start (blocks ++ blocks').flatten)) :=
        completed (by rw [List.map_append, List.map_append, hall, hall'])
      rw [List.flatten_append, List.length_append] at h
      rw [Window.set_set hstart]
      exact h

end Progress

theorem Place.length_encoding? {place : Place} {order : ByteOrder} {data block : Bytes}
    {s : Source} (h : place.encoding? order data s = some block) :
    block.length = place.leaf.size := by
  obtain ⟨part, -, h⟩ := Option.bind_eq_some_iff.1 h
  exact Leaf.length_encoding? h

theorem Packed.length_flatten {places : List Place} {first stop : Nat}
    (h : Packed first places stop) {f : Place → Option Bytes}
    (hf : ∀ place block, f place = some block → block.length = place.leaf.size)
    {blocks : List Bytes} (hblocks : places.map f = blocks.map some) :
    first + blocks.flatten.length = stop := by
  induction places generalizing first blocks with
  | nil =>
    cases List.map_eq_nil_iff.1 hblocks.symm
    exact h
  | cons place rest ih =>
    cases blocks with
    | nil => contradiction
    | cons block blocks =>
      obtain ⟨hblock, hrest⟩ := List.cons.inj hblocks
      have hlength := hf place block hblock
      have := ih h.2 hrest
      rw [List.flatten_cons, List.length_append, hlength, ← Nat.add_assoc]
      exact this

theorem ne_none_of_map_eq {f : Place → Option Bytes} {places : List Place} {blocks : List Bytes}
    (h : places.map f = blocks.map some) : ∀ place ∈ places, f place ≠ none := by
  intro place hp hnone
  have hmem := List.mem_map_of_mem (f := f) hp
  rw [h, hnone] at hmem
  obtain ⟨block, -, hblock⟩ := List.mem_map.1 hmem
  cases hblock

/-- Which bytes are written for a leaf with the given options at the end of a path, while the memory
holds the given bytes. -/
abbrev Encoder :=
  List Step → Leaf → Value → Bytes → Source → Option Bytes

namespace Encoder

variable {K : Encoder} {order : ByteOrder} {data data' block : Bytes} {s t : Source}
  {place : Place} {x : Expansion} {start : Nat}

def At (K : Encoder) (data : Bytes) (s : Source) (place : Place) : Option Bytes :=
  (s.part? data place.path).bind (K place.path place.leaf place.options data)

def inside (K : Encoder) (step : Step) : Encoder := fun path ↦ K (step :: path)

/-- Whether it is the same in memories of the same length, and fills the windows of leaves. -/
structure Steady (K : Encoder) : Prop where
  eq_of_length_eq : ∀ path l options {data data' s}, s.IsTaken → data'.length = data.length →
    K path l options data' s = K path l options data s
  length_eq : ∀ {path l options data s block}, K path l options data s = some block →
    block.length = l.size

def ofLeaves (order : ByteOrder) : Encoder := fun _ l options data s ↦
  l.encoding? order options data s

theorem steady_ofLeaves (order : ByteOrder) : (ofLeaves order).Steady where
  eq_of_length_eq _ l options _ _ _ hs h := Leaf.encoding?_of_length_eq hs h l order options
  length_eq h := Leaf.length_encoding? h

theorem Steady.inside (hK : K.Steady) (step : Step) : (K.inside step).Steady where
  eq_of_length_eq path := hK.eq_of_length_eq (step :: path)
  length_eq h := hK.length_eq h

theorem at_under {step : Step} (h : s.step? data step = some t) (offset : Nat) :
    K.At data s (place.under step offset) = (K.inside step).At data t place := by
  rw [At, Place.part?_under, h]
  rfl

namespace Steady

variable (hK : K.Steady)
include hK

theorem length_at (h : K.At data s place = some block) : block.length = place.leaf.size := by
  obtain ⟨part, -, h⟩ := Option.bind_eq_some_iff.1 h
  exact hK.length_eq h

theorem length_flatten_places {step : Step} {offset : Nat} {blocks : List Bytes}
    (h : (x.places.map (Place.under step offset)).map (K.At data s) = blocks.map some) :
    blocks.flatten.length = x.size := by
  have hpacked := x.packed_places.under step offset
  have := hpacked.length_flatten (fun _ _ ↦ hK.length_at) h
  omega

theorem at_of_part?_eq (place : Place) (hlength : data'.length = data.length)
    (h : s.part? data' place.path = s.part? data place.path)
    (htaken : ∀ t, s.part? data place.path = some t → t.IsTaken) :
    K.At data' s place = K.At data s place := by
  rw [At, At, h]
  cases hpart : s.part? data place.path with
  | none => rfl
  | some part => exact hK.eq_of_length_eq _ _ _ (htaken part hpart) hlength

theorem at_of_sameOn (h : Window.SameOn start x.size data data') (hp : place ∈ x.places)
    (hs : s.IsTaken) (hfit : start + x.size ≤ data.length) :
    K.At data' s place = K.At data s place :=
  hK.at_of_part?_eq place h.length_eq (part?_of_sameOn x h place hp s hfit)
    fun _ ↦ isTaken_of_part? hs

theorem at_of_sameOn_from {offset : Nat} {members : List (String × Expansion)}
    (h : Window.SameOn start (sizeAll members) data data') (hp : place ∈ placesFrom offset members)
    (hfit : start + sizeAll members ≤ data.length) : K.At data' s place = K.At data s place :=
  hK.at_of_part?_eq place h.length_eq (partFrom?_of_sameOn offset members h place hp s hfit)
    fun _ ↦ isTaken_of_mem_placesFrom hp

end Steady

end Encoder

/-- Which error may end the writing at a leaf with the given options at the end of a path, and with
which bytes left there, while the memory holds the given bytes and the leaf has a part or none. -/
abbrev Blame :=
  List Step → Leaf → Value → Bytes → Option Source → Error → Bytes → Prop

namespace Blame

variable {B : Blame} {data data' left : Bytes} {s t : Source} {place : Place} {x : Expansion}
  {start : Nat} {e : Error}

def At (B : Blame) (data : Bytes) (s : Source) (place : Place) (e : Error) (left : Bytes) : Prop :=
  B place.path place.leaf place.options data (s.part? data place.path) e left

def inside (B : Blame) (step : Step) : Blame := fun path ↦ B (step :: path)

/-- Whether it is the same in memories of the same length, and covers all rejections of a source
that has no part for the leaf. -/
structure Covers (B : Blame) : Prop where
  steady : ∀ {path l options data data' part e left}, data'.length = data.length →
    (∀ t, part = some t → t.IsTaken) → B path l options data' part e left →
    B path l options data part e left
  absent : ∀ {path l options data e}, e.causeKind = .encode → B path l options data none e []

theorem Covers.inside (hB : B.Covers) (step : Step) : (B.inside step).Covers where
  steady hlength htaken h := hB.steady hlength htaken h
  absent he := hB.absent he

theorem at_under {step : Step} (h : s.step? data step = some t) (offset : Nat) :
    B.At data s (place.under step offset) e left ↔ (B.inside step).At data t place e left := by
  rw [At, At, Place.part?_under, h]
  rfl

theorem at_of_none (hB : B.Covers) (h : s.part? data place.path = none)
    (he : e.causeKind = .encode) : B.At data s place e [] := by
  rw [At, h]
  exact hB.absent he

theorem at_of_sameOn (hB : B.Covers) (h : Window.SameOn start x.size data data')
    (hp : place ∈ x.places) (hs : s.IsTaken) (hfit : start + x.size ≤ data.length)
    (hat : B.At data' s place e left) : B.At data s place e left := by
  rw [At, part?_of_sameOn x h place hp s hfit] at hat
  exact hB.steady h.length_eq (fun _ ↦ isTaken_of_part? hs) hat

theorem at_of_sameOn_from (hB : B.Covers) {offset : Nat} {members : List (String × Expansion)}
    (h : Window.SameOn start (sizeAll members) data data') (hp : place ∈ placesFrom offset members)
    (hfit : start + sizeAll members ≤ data.length) (hat : B.At data' s place e left) :
    B.At data s place e left := by
  rw [At, partFrom?_of_sameOn offset members h place hp s hfit] at hat
  exact hB.steady h.length_eq (fun _ ↦ isTaken_of_mem_placesFrom hp) hat

end Blame

section Composition

variable {K : Encoder} {B : Blame} {data : Bytes} {s : Source} {start : Nat}

section Covered

variable (hB : B.Covers)
include hB

theorem array_fails {member : String} {count : Nat} {x : Expansion}
    (hsound : (array member count x).Sound) {e : Error} (he : e.causeKind = .encode)
    (hnone : ∀ i, s.step? data (.element count i) = none) :
    Progress (K.At data s) (B.At data s) (array member count x).places data start
      (.error e data) := by
  obtain ⟨place, hplace⟩ := exists_place hsound.size_pos
  refine .fail (List.ne_nil_of_mem hplace) fun place hp ↦ ?_
  obtain ⟨i, -, q, -, rfl⟩ := mem_places_array hp
  refine Blame.at_of_none hB ?_ he
  rw [Place.part?_under, hnone, Option.bind_none]

theorem member_fails {name : String} {offset : Nat} {x : Expansion} (hx : x.Sound)
    {entries : List (String × Source)} (hentries : s.entries? = some entries)
    (hnone : entries.lookup name = none) {e : Error} (he : e.causeKind = .encode) :
    Progress (K.At data s) (B.At data s) (x.places.map (.under (.member name) offset)) data start
      (.error e data) := by
  obtain ⟨place, hplace⟩ := exists_place hx.size_pos
  refine .fail (List.ne_nil_of_mem (List.mem_map_of_mem hplace)) fun place hp ↦ ?_
  obtain ⟨q, -, rfl⟩ := List.mem_map.1 hp
  refine Blame.at_of_none hB ?_ he
  rw [Place.part?_under, Source.step?, hentries, Option.bind_some, hnone, Option.bind_none]

theorem entries_fail {name : String} {members : List (String × Expansion)}
    (hsound : (record name members).Sound) {e : Error} (he : e.causeKind = .encode)
    (hnone : s.entries? = none) :
    Progress (K.At data s) (B.At data s) (record name members).places data start
      (.error e data) := by
  obtain ⟨place, hplace⟩ := exists_place hsound.size_pos
  refine .fail (List.ne_nil_of_mem hplace) fun place hp ↦ ?_
  rw [places] at hp
  exact Blame.at_of_none hB (part?_of_entries?_none hnone hp) he

end Covered

theorem member_progress {name : String} {offset : Nat} {x : Expansion}
    {entries : List (String × Source)} {t : Source} (hentries : s.entries? = some entries)
    (ht : entries.lookup name = some t) {r : EStateM.Result Error Bytes Nat}
    (h : Progress ((K.inside (.member name)).At data t) ((B.inside (.member name)).At data t)
      x.places data start r) :
    Progress (K.At data s) (B.At data s) (x.places.map (.under (.member name) offset)) data start
      r := by
  have hstep : s.step? data (.member name) = some t := by
    rw [Source.step?, hentries, Option.bind_some, ht]
  exact h.map (fun place _ ↦ Encoder.at_under hstep _)
    fun place _ e left ↦ (Blame.at_under hstep _).2

theorem leaf_progress {order : ByteOrder} {l : Leaf} {options : Value}
    (hK : K [] l options data s = l.encoding? order options data s)
    (hfit : start + l.size ≤ data.length)
    (h : l.encoding? order options data s = none → ∀ e left, left.length = l.size →
      (l.write order options s start).run data = .error e (Window.set data start left) →
      B [] l options data (some s) e left) :
    Progress (K.At data s) (B.At data s) (leaf l options).places data start
      ((l.write order options s start).run data) := by
  rw [places]
  cases hl : l.encoding? order options data s with
  | some block =>
    have hall : Progress (K.At data s) (B.At data s) [⟨0, l, options, []⟩] data
        start (.ok [block].flatten.length (Window.set data start [block].flatten)) :=
      .completed (congrArg (fun encoding ↦ [encoding]) (hK.trans hl))
    rw [List.flatten_singleton, Leaf.length_encoding? hl] at hall
    rw [Leaf.write_of_some hl hfit]
    exact hall
  | none =>
    obtain ⟨e, left, hlength, hrun⟩ := Leaf.write_of_none hl hfit
    rw [hrun]
    exact .head (h hl e left hlength hrun) []

variable (hK : K.Steady) (hB : B.Covers)
include hK hB

theorem writeItems_progress {item : Source → Nat → WriteM Nat} {x : Expansion} (hpos : 0 < x.size)
    {items : List Source} (hitems : s.items? data = some items)
    (hitem : ∀ i data s start, start + x.size ≤ data.length →
      Progress ((K.inside (.element items.length i)).At data s)
        ((B.inside (.element items.length i)).At data s) x.places data start
        ((item s start).run data))
    (hfit : start + items.length * x.size ≤ data.length) {rest : List Source} {i : Nat}
    (hrest : items.drop i = rest) {current : Bytes}
    (hsame : Window.SameFrom (start + i * x.size) data current) :
    Progress (K.At data s) (B.At data s)
      ((List.range' i rest.length).flatMap fun i ↦
        x.places.map (.under (.element items.length i) (i * x.size)))
      current (start + i * x.size)
      ((Codec.writeItems item rest (start + i * x.size)).run current) := by
  induction rest generalizing i current with
  | nil => exact .nil _ _ current _
  | cons t rest ih =>
    have hi : items[i]? = some t := by
      rw [← List.head?_drop, hrest, List.head?_cons]
    have hnext : items.drop (i + 1) = rest := by
      rw [← List.drop_drop, hrest, List.drop_one, List.tail_cons]
    have hlt := (List.getElem?_eq_some_iff.1 hi).1
    have hend := element_end_le hlt x.size
    have hlength := hsame.length_eq
    -- the item is taken as it was when the writing of the array began
    have htaken : t.taken current = t.taken data :=
      Source.taken_of_sameOn hitems hi hpos hfit (hsame.sameOn _)
    have hstep : s.step? data (.element items.length i) = some (t.taken data) := by
      rw [step?_element hitems, hi, Option.map_some]
    have ht := Source.isTaken_taken data t
    rw [Codec.writeItems, EStateM.run_bind, EStateM.run_get, List.length_cons, List.range'_succ,
      List.flatMap_cons]
    refine Progress.seq (by omega) ?_ fun blocks hblocks ↦ ?_
    · rw [htaken]
      refine (hitem i current (t.taken data) _ (by omega)).map (fun place hp ↦ ?_)
        fun place hp e left hat ↦ ?_
      · rw [Encoder.at_under hstep]
        exact ((hK.inside _).at_of_sameOn (hsame.sameOn _) hp ht (by omega)).symm
      · exact (Blame.at_under hstep _).2
          (Blame.at_of_sameOn (hB.inside _) (hsame.sameOn _) hp ht (by omega) hat)
    · have hsize := hK.length_flatten_places hblocks
      have hset : Window.SameFrom (start + (i + 1) * x.size) current
          (Window.set current (start + i * x.size) blocks.flatten) := by
        have := Window.SameFrom.set current (start + i * x.size) blocks.flatten (by omega)
        rwa [hsize, Nat.add_assoc, ← Nat.succ_mul] at this
      have hcursor : start + i * x.size + blocks.flatten.length = start + (i + 1) * x.size := by
        rw [hsize, Nat.add_mul, Nat.one_mul, Nat.add_assoc]
      rw [hcursor]
      exact ih hnext ((hsame.mono (by rw [Nat.add_mul]; omega)).trans hset)

theorem array_progress {member : String} {count : Nat} {item : Source → Nat → WriteM Nat}
    {x : Expansion} (hsound : (array member count x).Sound)
    (hitem : ∀ i data s start, start + x.size ≤ data.length →
      Progress ((K.inside (.element count i)).At data s) ((B.inside (.element count i)).At data s)
        x.places data start ((item s start).run data))
    (hfit : start + (array member count x).size ≤ data.length) :
    Progress (K.At data s) (B.At data s) (array member count x).places data start
      ((do
        let items ← Codec.outcome (arrayItems member count (← get) s)
        Codec.writeItems item items start : WriteM Nat).run data) := by
  rw [EStateM.run_bind, EStateM.run_get]
  simp only [EStateM.run_bind, arrayItems]
  cases hitems : s.items? data with
  | none =>
    refine array_fails hB hsound rfl fun i ↦ ?_
    rw [Source.step?, hitems, Option.bind_none]
  | some items =>
    by_cases hcount : items.length = count
    · subst hcount
      cases hsound with
      | array _ hx =>
        rw [size] at hfit
        have hsame : Window.SameFrom (start + 0 * x.size) data data := ⟨rfl, fun _ _ ↦ rfl⟩
        have h := writeItems_progress hK hB hx.size_pos hitems hitem hfit List.drop_zero hsame
        rw [Nat.zero_mul, Nat.add_zero, ← List.range_eq_range'] at h
        simp only [if_pos]
        rw [places]
        exact h
    · simp only [if_neg hcount]
      refine array_fails hB hsound rfl fun i ↦ ?_
      simp only [Source.step?, hitems, Option.bind_some, if_neg hcount]

theorem members_progress {name : String} {offset : Nat} {x : Expansion}
    {rest : List (String × Expansion)} {first : WriteM Nat} {others : Nat → WriteM Nat}
    (hfit : start + sizeAll ((name, x) :: rest) ≤ data.length)
    (hfirst : Progress (K.At data s) (B.At data s)
      (x.places.map (.under (.member name) offset)) data start (first.run data))
    (hothers : ∀ after : Bytes, after.length = data.length →
      Progress (K.At after s) (B.At after s) (placesFrom (offset + x.size) rest) after
        (start + x.size) ((others (start + x.size)).run after)) :
    Progress (K.At data s) (B.At data s) (placesFrom offset ((name, x) :: rest)) data start
      ((do
        let size ← first
        let total ← others (start + size)
        return size + total : WriteM Nat).run data) := by
  rw [sizeAll] at hfit
  rw [placesFrom]
  refine Progress.seq (y := fun size ↦ others (start + size)) (by omega) hfirst
    fun blocks hblocks ↦ ?_
  have hsize := hK.length_flatten_places hblocks
  have hsame := Window.SameFrom.set data start blocks.flatten (by omega)
  have hlength := hsame.length_eq
  rw [hsize] at hsame ⊢
  refine (hothers _ hlength).congr (fun place hp ↦ ?_) fun place hp e left ↦ ?_
  · exact (hK.at_of_sameOn_from (hsame.sameOn _) hp (by omega)).symm
  · exact Blame.at_of_sameOn_from hB (hsame.sameOn _) hp (by omega)

end Composition

/-- Whether the errors of leaves that admit their options are among those to be blamed on them. -/
def Blame.Explains (B : Blame) (order : ByteOrder) : Prop :=
  ∀ {path : List Step} {l : Leaf} {options : Value} {data : Bytes} {s : Source} {start : Nat},
    l.Admits options → start + l.size ≤ data.length → l.encoding? order options data s = none →
    ∀ e left, left.length = l.size →
    (l.write order options s start).run data = .error e (Window.set data start left) →
    B path l options data (some s) e left

theorem Blame.Explains.inside {B : Blame} {order : ByteOrder} (h : B.Explains order)
    (step : Step) : (B.inside step).Explains order :=
  fun ha hfit hnone ↦ h ha hfit hnone

mutual

/-- Writing an expansion writes its leaves. -/
theorem write_progress {order : ByteOrder} : {B : Blame} → B.Covers → B.Explains order →
    (x : Expansion) → x.Sound → (data : Bytes) → (s : Source) → (start : Nat) →
    start + x.size ≤ data.length →
    Progress ((Encoder.ofLeaves order).At data s) (B.At data s) x.places data start
      ((x.write order s start).run data)
  | _, _, hleaf, leaf l options, hsound, data, s, start, hfit => by
    cases hsound with
    | leaf ha =>
      rw [size] at hfit
      rw [write]
      exact leaf_progress rfl hfit (hleaf ha hfit)
  | _, hB, hleaf, array member count item, hsound, data, s, start, hfit => by
    have hitem : item.Sound := by
      cases hsound with
      | array _ hitem => exact hitem
    rw [write]
    exact array_progress (Encoder.steady_ofLeaves order) hB hsound
      (fun i ↦ write_progress (hB.inside _) (hleaf.inside (.element count i)) item hitem) hfit
  | _, hB, hleaf, record name members, hsound, data, s, start, hfit => by
    rw [write]
    cases hentries : s.entries? with
    | none => exact entries_fail hB hsound rfl hentries
    | some entries =>
      cases hsound with
      | record _ _ hmembers =>
        rw [size] at hfit
        rw [places]
        exact writeMembers_progress hB hleaf name 0 entries members hmembers data s hentries start
          hfit

theorem writeMembers_progress {order : ByteOrder} : {B : Blame} → B.Covers → B.Explains order →
    (record : String) → (offset : Nat) → (entries : List (String × Source)) →
    (members : List (String × Expansion)) → (∀ m ∈ members, m.2.Sound) → (data : Bytes) →
    (s : Source) → s.entries? = some entries → (start : Nat) →
    start + sizeAll members ≤ data.length →
    Progress ((Encoder.ofLeaves order).At data s) (B.At data s) (placesFrom offset members) data
      start ((writeMembers order record entries members start).run data)
  | _, _, _, _, _, _, [], _, data, _, _, start, _ => .nil _ _ data start
  | _, hB, hleaf, owner, offset, entries, (name, x) :: rest, hsound, data, s, hentries, start,
      hfit => by
    have hx : x.Sound := hsound _ List.mem_cons_self
    have hfit' := hfit
    rw [sizeAll] at hfit'
    have hothers : ∀ after : Bytes, after.length = data.length →
        Progress ((Encoder.ofLeaves order).At after s) (Blame.At _ after s)
          (placesFrom (offset + x.size) rest) after (start + x.size)
          ((writeMembers order owner entries rest (start + x.size)).run after) :=
      fun after hafter ↦ writeMembers_progress hB hleaf owner (offset + x.size) entries rest
        (fun m hm ↦ hsound m (List.mem_cons_of_mem _ hm)) after s hentries _ (by omega)
    have hsteady := Encoder.steady_ofLeaves order
    rw [writeMembers]
    cases ht : entries.lookup name with
    | some t =>
      refine members_progress hsteady hB hfit (member_progress hentries ht ?_) hothers
      exact write_progress (hB.inside _) (hleaf.inside (.member name)) x hx data t start (by omega)
    | none => exact members_progress hsteady hB hfit (member_fails hB hx hentries ht rfl) hothers

end

end RecordCodec.Expansion
