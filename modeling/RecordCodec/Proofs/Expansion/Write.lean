import RecordCodec.Proofs.Expansion.Progress

namespace RecordCodec.Expansion

/-- What writing leaves one after the other comes to, where `f` gives the bytes of each. -/
inductive Written (f : Place → Option Bytes) (places : List Place) (data : Bytes) (start : Nat) :
    EStateM.Result Error Bytes Nat → Prop
  | all {blocks : List Bytes} :
      places.map f = blocks.map some → Written f places data start
        (.ok blocks.flatten.length (Window.set data start blocks.flatten))
  | torn {e : Error} {done : List Place} {place : Place} {rest : List Place}
      {blocks : List Bytes} {torn : Bytes} : places = done ++ place :: rest →
      done.map f = blocks.map some → f place = none → torn.length = place.leaf.size →
      Written f places data start (.error e (Window.set data start (blocks.flatten ++ torn)))

/-- Leaves without an encoding are to be blamed, whatever the error is, and may leave anything in
their windows. -/
def unencoded (order : ByteOrder) : Blame := fun _ l options data part _ left ↦
  part.bind (l.encoding? order options data) = none ∧ (left = [] ∨ left.length = l.size)

theorem covers_unencoded (order : ByteOrder) : (unencoded order).Covers where
  steady {_ l options _ _ part _ _} hlength htaken h := by
    refine ⟨?_, h.2⟩
    rw [← h.1]
    cases part with
    | none => rfl
    | some t => exact Leaf.encoding?_of_length_eq (htaken t rfl) hlength.symm l order options
  absent _ := ⟨rfl, .inl rfl⟩

theorem explains_unencoded (order : ByteOrder) : (unencoded order).Explains order :=
  fun _ _ hnone _ _ hlength _ ↦ ⟨hnone, .inr hlength⟩

theorem write_written (order : ByteOrder) (x : Expansion) (hsound : x.Sound) (data : Bytes)
    (s : Source) (start : Nat) (hfit : start + x.size ≤ data.length) :
    Written (Place.encoding? · order data s) x.places data start
      ((x.write order s start).run data) := by
  have h := write_progress (covers_unencoded order) (explains_unencoded order) x hsound data s start
    hfit
  generalize (x.write order s start).run data = result at h ⊢
  cases h with
  | completed hall => exact .all hall
  | @halted e done place rest blocks left hplaces hdone h =>
    obtain ⟨hnone, rfl | hlength⟩ := h
    · -- nothing is left there, so the window is as it was
      have hpacked := x.packed_places
      have hbounds := hpacked.bounds (hplaces ▸ List.mem_append_right _ List.mem_cons_self)
      rw [hplaces] at hpacked
      have hblocks := hpacked.front_of_append.length_flatten
        (fun _ _ ↦ Place.length_encoding?) hdone
      have hplace : start + blocks.flatten.length + place.leaf.size ≤ data.length := by omega
      rw [List.append_nil, ← Window.set_append_get hplace]
      exact .torn hplaces hdone hnone (Window.length_get hplace)
    · exact .torn hplaces hdone hnone hlength

theorem Packed.flatMap_window {places : List Place} {first stop : Nat}
    (h : Packed first places stop) (buffer : Bytes) (start : Nat) :
    places.flatMap (·.window buffer start) = Window.get buffer (start + first) (stop - first) := by
  induction places generalizing first with
  | nil =>
    cases h
    rw [Nat.sub_self, Window.get_zero, List.flatMap_nil]
  | cons place rest ih =>
    obtain ⟨hoffset, hrest⟩ := h
    have hle := hrest.start_le
    rw [List.flatMap_cons, ih hrest, Place.window, hoffset, ← Nat.add_assoc, ← Window.get_add]
    congr 1
    omega

theorem flatMap_window (x : Expansion) (buffer : Bytes) (start : Nat) :
    x.places.flatMap (·.window buffer start) = Window.get buffer start x.size :=
  x.packed_places.flatMap_window buffer start

theorem Packed.flatten_eq {places : List Place} {first stop : Nat} (h : Packed first places stop)
    {f : Place → Option Bytes} {blocks : List Bytes} (hblocks : places.map f = blocks.map some)
    {buffer : Bytes} {start : Nat}
    (hf : ∀ place ∈ places, f place = some (place.window buffer start)) :
    blocks.flatten = Window.get buffer (start + first) (stop - first) := by
  have hwindows : blocks = places.map (·.window buffer start) := by
    apply List.map_injective_iff.2 fun _ _ ↦ Option.some.inj
    rw [← hblocks, List.map_map]
    exact List.map_congr_left hf
  rw [hwindows, ← List.flatMap_def, h.flatMap_window]

theorem Packed.exists_block {places : List Place} {first stop : Nat}
    (h : Packed first places stop) {f : Place → Option Bytes}
    (hf : ∀ place block, f place = some block → block.length = place.leaf.size)
    {blocks : List Bytes} (hblocks : places.map f = blocks.map some) {buffer : Bytes} {start : Nat}
    (hfit : start + stop ≤ buffer.length)
    (hwindow : Window.get buffer (start + first) blocks.flatten.length = blocks.flatten) :
    ∀ place ∈ places, f place = some (place.window buffer start) := by
  induction places generalizing first blocks with
  | nil => exact nofun
  | cons place rest ih =>
    cases blocks with
    | nil => contradiction
    | cons block blocks =>
      obtain ⟨hoffset, hpacked⟩ := h
      obtain ⟨hblock, hrest⟩ := List.cons.inj hblocks
      have hlength := hf place block hblock
      have hle := hpacked.start_le
      rw [List.flatten_cons, List.length_append, Window.get_add] at hwindow
      obtain ⟨hfirst, hothers⟩ :=
        List.append_inj hwindow (Window.length_get (by omega))
      intro q hq
      rcases List.mem_cons.1 hq with rfl | hq
      · rw [Place.window, hoffset, ← hlength, hfirst, hblock]
      · rw [hlength, Nat.add_assoc] at hothers
        exact ih hpacked hrest hothers q hq

theorem Packed.window_of_set_append {places : List Place} {stop : Nat} (h : Packed 0 places stop)
    {f : Place → Option Bytes}
    (hf : ∀ place block, f place = some block → block.length = place.leaf.size)
    {blocks : List Bytes} (hblocks : places.map f = blocks.map some) {data left : Bytes}
    {start : Nat} (hfit : start + stop + left.length ≤ data.length) :
    ∀ place ∈ places,
      f place = some (place.window (Window.set data start (blocks.flatten ++ left)) start) := by
  have hlength := h.length_flatten hf hblocks
  have hend : (blocks.flatten ++ left).length = stop + left.length := by
    rw [List.length_append]
    omega
  have hafter : (Window.set data start (blocks.flatten ++ left)).length = data.length :=
    Window.length_set (by omega)
  have hwindow : Window.get (Window.set data start (blocks.flatten ++ left)) (start + 0)
      blocks.flatten.length = blocks.flatten := Window.get_set_append (by omega)
  exact h.exists_block hf hblocks (by omega) hwindow

/-- Where every leaf has an encoding, all of them are written. -/
theorem write_of_encodings {x : Expansion} (hsound : x.Sound) (order : ByteOrder) {data : Bytes}
    (s : Source) {start : Nat} (hfit : start + x.size ≤ data.length)
    (h : ∀ place ∈ x.places, place.encoding? order data s ≠ none) :
    ∃ blocks : List Bytes, x.places.map (Place.encoding? · order data s) = blocks.map some ∧
      blocks.flatten.length = x.size ∧
      (x.write order s start).run data = .ok x.size (Window.set data start blocks.flatten) := by
  have hwritten := write_written order x hsound data s start hfit
  generalize (x.write order s start).run data = result at hwritten ⊢
  cases hwritten with
  | torn hplaces _ hnone _ =>
    exact absurd hnone (h _ (hplaces ▸ List.mem_append_right _ List.mem_cons_self))
  | @all blocks hblocks =>
    have hlength := x.packed_places.length_flatten (fun _ _ ↦ Place.length_encoding?) hblocks
    rw [Nat.zero_add] at hlength
    exact ⟨blocks, hblocks, hlength, by rw [hlength]⟩

/-- What has been written, all of it and nothing else. -/
structure Complete (x : Expansion) (order : ByteOrder) (s : Source) (start : Nat)
    (data after : Bytes) : Prop where
  length_eq : after.length = data.length
  encoding?_eq : ∀ place ∈ x.places, place.encoding? order data s = some (place.window after start)
  getElem?_eq : ∀ i, i < start ∨ start + x.size ≤ i → after[i]? = data[i]?

theorem complete_of_write {x : Expansion} (hsound : x.Sound) {order : ByteOrder} {data : Bytes}
    {s : Source} {start n : Nat} {after : Bytes} (hfit : start + x.size ≤ data.length)
    (h : (x.write order s start).run data = .ok n after) :
    n = x.size ∧ x.Complete order s start data after := by
  have hwritten := write_written order x hsound data s start hfit
  rw [h] at hwritten
  cases hwritten with
  | @all blocks hblocks =>
    have hlength := x.packed_places.length_flatten (fun _ _ ↦ Place.length_encoding?) hblocks
    rw [Nat.zero_add] at hlength
    have hafter : (Window.set data start blocks.flatten).length = data.length :=
      Window.length_set (by omega)
    refine ⟨hlength, hafter, ?_, ?_⟩
    · have hwindow : Window.get (Window.set data start blocks.flatten) (start + 0)
          blocks.flatten.length = blocks.flatten := Window.get_set (by omega)
      exact x.packed_places.exists_block (fun _ _ ↦ Place.length_encoding?) hblocks (by omega)
        hwindow
    · intro i hi
      rcases hi with hi | hi
      · exact Window.getElem?_set_of_lt hi (by omega)
      · exact Window.getElem?_set_of_le (by omega) (by omega)

theorem Complete.sameOutside {x : Expansion} {order : ByteOrder} {s : Source} {start : Nat}
    {data after : Bytes} (h : x.Complete order s start data after) :
    Window.SameOutside start x.size data after :=
  ⟨h.length_eq, h.getElem?_eq⟩

theorem write_of_windows {x : Expansion} (hsound : x.Sound) {order : ByteOrder}
    {data target : Bytes} {s : Source} {start start' : Nat} (hfit : start + x.size ≤ data.length)
    (h : ∀ place ∈ x.places, place.encoding? order data s = some (place.window target start')) :
    (x.write order s start).run data =
      .ok x.size (Window.set data start (Window.get target start' x.size)) := by
  obtain ⟨blocks, hblocks, -, hrun⟩ := write_of_encodings hsound order s hfit fun place hp ↦ by
    rw [h place hp]
    exact nofun
  have hflatten := x.packed_places.flatten_eq hblocks h
  rw [Nat.add_zero, Nat.sub_zero] at hflatten
  rw [hrun, hflatten]

end RecordCodec.Expansion
