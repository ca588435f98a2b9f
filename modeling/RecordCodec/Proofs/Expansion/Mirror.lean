import RecordCodec.Proofs.Expansion.Agreement
import RecordCodec.Proofs.Expansion.Read
import RecordCodec.Proofs.Expansion.Write

namespace RecordCodec

namespace Leaf

variable {order : ByteOrder} {options v : Value} {block data : Bytes} {s : Source}

theorem decode_opposite {l : Leaf} (hb : block.length = l.size) :
    l.decode order.opposite options block = l.decode order options block.reverse := by
  cases l with
  | int signed size => cases signed <;> simp only [decode, ByteOrder.decode_opposite]
  | single | double | bool | bits => simp only [decode, ByteOrder.decode_opposite]
  | char =>
    obtain ⟨b, rfl⟩ := List.length_eq_one_iff.1 hb
    rfl

theorem encodeInt?_opposite (signed : Bool) (size : WordSize) :
    encodeInt? signed size order.opposite v =
      (encodeInt? signed size order v).map List.reverse := by
  simp only [encodeInt?, bind]
  cases v.toInt? with
  | none => rfl
  | some n =>
    simp only [Option.bind_some]
    split
    · rw [ByteOrder.encode_opposite, Option.map_some]
    · rfl

theorem encode?_opposite (l : Leaf) :
    l.encode? order.opposite v = (l.encode? order v).map List.reverse := by
  have hencode (size : Nat) : order.opposite.encode size = List.reverse ∘ order.encode size := by
    funext n
    exact order.encode_opposite size n
  cases l with
  | int signed size => exact encodeInt?_opposite signed size
  | bool => exact encodeInt?_opposite false .four
  | single | bits => simp only [encode?, hencode, Option.map_map, Function.comp_def]
  | double => simp only [encode?, ByteOrder.encode_opposite, Option.map_map, Function.comp_def]
  | char =>
    simp only [encode?]
    split
    · split
      · rename_i data hlength
        obtain ⟨b, rfl⟩ := List.length_eq_one_iff.1 hlength
        rfl
      · rfl
    · rfl

theorem encoding?_opposite (l : Leaf) : l.encoding? order.opposite options data s =
    (l.encoding? order options data s).map List.reverse := by
  simp only [encoding?]
  cases l.prepare options data s with
  | error e => rfl
  | ok s' => exact encode?_opposite l

end Leaf

namespace Expansion

variable {x : Expansion} {order : ByteOrder} {data data' : Bytes} {s s' : Source} {p p' : Nat}

theorem Place.encoding?_opposite (place : Place) : place.encoding? order.opposite data s =
    (place.encoding? order data s).map List.reverse := by
  rw [encoding?, encoding?]
  cases s.part? data place.path with
  | none => rfl
  | some part => exact place.leaf.encoding?_opposite

/-- The bytes of a value with those of each leaf reversed. -/
def mirror (x : Expansion) (data : Bytes) : Bytes :=
  x.places.flatMap fun place ↦ (place.window data 0).reverse

theorem length_mirror (h : data.length = x.size) : (x.mirror data).length = data.length := by
  have hwindows := congrArg List.length (x.flatMap_window data 0)
  rw [Window.length_get (by omega), List.length_flatMap] at hwindows
  simp only [mirror, List.length_flatMap, List.length_reverse]
  omega

theorem eq_of_flatMap_eq {α β : Type} {f g : α → List β} {xs : List α}
    (h : xs.flatMap f = xs.flatMap g) (hlength : ∀ a ∈ xs, (f a).length = (g a).length) :
    ∀ a ∈ xs, f a = g a := by
  induction xs with
  | nil => exact List.forall_mem_nil _
  | cons a xs ih =>
    rw [List.flatMap_cons, List.flatMap_cons] at h
    obtain ⟨hhead, hrest⟩ := List.append_inj h (hlength a List.mem_cons_self)
    rw [List.forall_mem_cons]
    exact ⟨hhead, ih hrest fun b hb ↦ hlength b (List.mem_cons_of_mem _ hb)⟩

theorem mirror_window (x : Expansion) (data : Bytes) (p : Nat) :
    x.mirror (Window.get data p x.size) =
      x.places.flatMap fun place ↦ (place.window data p).reverse := by
  apply List.flatMap_congr
  intro place hp
  have hbounds := x.packed_places.bounds hp
  rw [Place.window, Place.window, Window.get_get _ _ (by omega), Nat.zero_add]

theorem window_eq_mirror_iff (hfit : p + x.size ≤ data.length)
    (hfit' : p' + x.size ≤ data'.length) :
    Window.get data' p' x.size = x.mirror (Window.get data p x.size) ↔
      ∀ place ∈ x.places, place.window data' p' = (place.window data p).reverse := by
  rw [mirror_window, ← x.flatMap_window]
  constructor
  · intro h
    apply eq_of_flatMap_eq h
    intro place hp
    have hbounds := x.packed_places.bounds hp
    rw [List.length_reverse, Place.window, Place.window, Window.length_get (by omega),
      Window.length_get (by omega)]
  · exact List.flatMap_congr

/-- The mirrored bytes are read in the other order as the same value. -/
theorem exists_read_opposite (hsound : x.Sound) (order : ByteOrder)
    (hfit : p + x.size ≤ data.length) (hfit' : p' + x.size ≤ data'.length)
    (h : Window.get data' p' x.size = x.mirror (Window.get data p x.size)) :
    ∃ v, x.read order data p = .ok (v, x.size) ∧
      x.read order.opposite data' p' = .ok (v, x.size) := by
  rw [window_eq_mirror_iff hfit hfit'] at h
  obtain ⟨v, hread, hread', -⟩ := exists_reads order order.opposite data data' x hsound p p' hfit
    hfit' fun place hp ↦ by
      have hbounds := x.packed_places.bounds hp
      have hlength : (place.window data' p').length = place.leaf.size :=
        Window.length_get (by omega)
      rw [DecodeAlike, Leaf.decode_opposite hlength, h place hp, List.reverse_reverse]
  exact ⟨v, hread, hread'⟩

theorem Agree.encoding?_opposite (h : x.Agree data data' s s') (order : ByteOrder) {place : Place}
    (hp : place ∈ x.places) : place.encoding? order.opposite data' s' =
      (place.encoding? order data s).map List.reverse := by
  rw [Place.encoding?_opposite, Agree.encoding?_eq order x s s' h place hp]

theorem Complete.window_eq_mirror {after after' : Bytes} (hagree : x.Agree data data' s s')
    (hfit : p + x.size ≤ data.length) (hfit' : p' + x.size ≤ data'.length)
    (h : x.Complete order s p data after) (h' : x.Complete order.opposite s' p' data' after') :
    Window.get after' p' x.size = x.mirror (Window.get after p x.size) := by
  have hlength := h.length_eq
  have hlength' := h'.length_eq
  rw [window_eq_mirror_iff (by omega) (by omega)]
  intro place hp
  have hencoding := hagree.encoding?_opposite order hp
  rw [h.encoding?_eq place hp, h'.encoding?_eq place hp] at hencoding
  exact Option.some.inj hencoding

end Expansion

end RecordCodec
