import RecordCodec.Leaf

namespace RecordCodec.Window

variable {data block block' : Bytes} {start size i : Nat}

theorem start?_of_le {length : Nat} (h : start + size ≤ length) :
    start? length size (start : Int) = some start := by
  have hnonneg : ¬ (start : Int) < 0 := by omega
  rw [start?, if_neg hnonneg, if_pos (by omega), Int.toNat_natCast]

theorem length_get (h : start + size ≤ data.length) : (get data start size).length = size := by
  rw [get, List.length_take, List.length_drop]
  omega

theorem get_add (data : Bytes) (start m n : Nat) :
    get data start (m + n) = get data start m ++ get data (start + m) n := by
  rw [get, get, get, List.take_add, List.drop_drop]

theorem get_get {offset n : Nat} (data : Bytes) (start : Nat) (h : offset + n ≤ size) :
    get (get data start size) offset n = get data (start + offset) n := by
  rw [get, get, get, List.drop_take, List.drop_drop, List.take_take, Nat.min_eq_left (by omega)]

theorem get_drop (data : Bytes) (n start size : Nat) :
    get (data.drop n) start size = get data (n + start) size := by
  rw [get, get, List.drop_drop]

@[simp]
theorem get_zero (data : Bytes) (start : Nat) : get data start 0 = [] :=
  List.take_zero

@[simp]
theorem set_nil (data : Bytes) (start : Nat) : set data start [] = data := by
  rw [set, List.append_nil, List.length_nil, Nat.add_zero, List.take_append_drop]

theorem length_set (h : start + block.length ≤ data.length) :
    (set data start block).length = data.length := by
  simp only [set, List.length_append, List.length_take, List.length_drop]
  omega

theorem getElem?_set_of_lt (h : i < start) (hs : start ≤ data.length) :
    (set data start block)[i]? = data[i]? := by
  rw [set, List.append_assoc, List.getElem?_append_left (by rw [List.length_take]; omega),
    List.getElem?_take_of_lt h]

theorem getElem?_set_of_le (h : start + block.length ≤ i) (hs : start ≤ data.length) :
    (set data start block)[i]? = data[i]? := by
  have hlength : (data.take start ++ block).length = start + block.length := by
    rw [List.length_append, List.length_take]
    omega
  rw [set, List.getElem?_append_right (by omega), List.getElem?_drop, hlength]
  congr 1
  omega

theorem getElem?_set_get {other : Bytes} (hlength : other.length = data.length)
    (h : start + size ≤ data.length) (hi : start ≤ i) (hi' : i < start + size) :
    (set data start (get other start size))[i]? = other[i]? := by
  have htake : (data.take start).length = start := by
    rw [List.length_take]
    omega
  have hget : (get other start size).length = size := length_get (by omega)
  rw [set, List.append_assoc, List.getElem?_append_right (by omega), htake,
    List.getElem?_append_left (by omega), get, List.getElem?_take_of_lt (by omega),
    List.getElem?_drop]
  congr 1
  omega

theorem get_set_append (h : start ≤ data.length) :
    get (set data start (block ++ block')) start block.length = block := by
  have htake : (data.take start).length = start := by
    rw [List.length_take]
    omega
  rw [get, set, List.append_assoc, List.drop_left' htake, List.append_assoc, List.take_left]

theorem get_set (h : start ≤ data.length) :
    get (set data start block) start block.length = block := by
  have hget : get (set data start (block ++ [])) start block.length = block := get_set_append h
  rwa [List.append_nil] at hget

@[simp]
theorem set_get (h : start + size ≤ data.length) :
    set data start (get data start size) = data := by
  rw [set, length_get h, get, List.append_assoc, ← List.drop_drop, List.take_append_drop,
    List.take_append_drop]

theorem set_eq_self_iff (h : start + block.length ≤ data.length) :
    set data start block = data ↔ get data start block.length = block := by
  constructor
  · intro heq
    have hget : get (set data start block) start block.length = block := get_set (by omega)
    rwa [heq] at hget
  · intro hget
    have hset : set data start (get data start block.length) = data := set_get h
    rwa [hget] at hset

theorem set_set (h : start ≤ data.length) :
    set (set data start block) (start + block.length) block' =
      set data start (block ++ block') := by
  have hlength : (data.take start ++ block).length = start + block.length := by
    rw [List.length_append, List.length_take]
    omega
  have htake : (set data start block).take (start + block.length) = data.take start ++ block := by
    rw [set, List.take_left' hlength]
  have hdrop : (set data start block).drop (start + block.length + block'.length) =
      data.drop (start + (block ++ block').length) := by
    rw [← List.drop_drop, set, List.drop_left' hlength, List.drop_drop, List.length_append,
      Nat.add_assoc]
  rw [set, htake, hdrop, set]
  simp only [List.append_assoc]

/-- Whether a buffer has kept its length and its bytes from a position on. -/
structure SameFrom (start : Nat) (data data' : Bytes) : Prop where
  length_eq : data'.length = data.length
  getElem?_eq : ∀ i, start ≤ i → data'[i]? = data[i]?

namespace SameFrom

theorem mono {data' : Bytes} {start' : Nat} (h : SameFrom start data data') (hle : start ≤ start') :
    SameFrom start' data data' :=
  ⟨h.length_eq, fun i hi ↦ h.getElem?_eq i (by omega)⟩

theorem trans {data' data'' : Bytes} (h : SameFrom start data data')
    (h' : SameFrom start data' data'') : SameFrom start data data'' :=
  ⟨h'.length_eq.trans h.length_eq,
    fun i hi ↦ (h'.getElem?_eq i hi).trans (h.getElem?_eq i hi)⟩

theorem set (data : Bytes) (start : Nat) (block : Bytes)
    (h : start + block.length ≤ data.length) :
    SameFrom (start + block.length) data (Window.set data start block) :=
  ⟨length_set h, fun _ hi ↦ getElem?_set_of_le hi (by omega)⟩

end SameFrom

structure SameOn (start size : Nat) (data data' : Bytes) : Prop where
  length_eq : data'.length = data.length
  getElem?_eq : ∀ i, start ≤ i → i < start + size → data'[i]? = data[i]?

theorem SameFrom.sameOn {data' : Bytes} (h : SameFrom start data data') (size : Nat) :
    SameOn start size data data' :=
  ⟨h.length_eq, fun i hi _ ↦ h.getElem?_eq i hi⟩

namespace SameOn

variable {data' : Bytes} {start' size' : Nat}

theorem mono (h : SameOn start size data data') (hstart : start ≤ start')
    (hend : start' + size' ≤ start + size) : SameOn start' size' data data' :=
  ⟨h.length_eq, fun i hi hi' ↦ h.getElem?_eq i (by omega) (by omega)⟩

theorem get_eq (h : SameOn start size data data') : get data' start size = get data start size := by
  refine List.ext_getElem? fun i ↦ ?_
  rw [get, get, List.getElem?_take, List.getElem?_take]
  split
  · rw [List.getElem?_drop, List.getElem?_drop, h.getElem?_eq _ (by omega) (by omega)]
  · rfl

end SameOn

theorem set_append_get (h : start + block.length + size ≤ data.length) :
    set data start (block ++ get data (start + block.length) size) = set data start block := by
  have hsame := SameFrom.set data start block (by omega)
  rw [← set_set (by omega), ← (hsame.sameOn size).get_eq]
  exact set_get (by rw [hsame.length_eq]; omega)

/-- Whether a buffer has kept its length and the bytes outside a window. -/
structure SameOutside (start size : Nat) (data data' : Bytes) : Prop where
  length_eq : data'.length = data.length
  getElem?_eq : ∀ i, i < start ∨ start + size ≤ i → data'[i]? = data[i]?

namespace SameOutside

variable {data' data'' : Bytes} {start' size' : Nat}

theorem refl (data : Bytes) (start size : Nat) : SameOutside start size data data :=
  ⟨rfl, fun _ _ ↦ rfl⟩

theorem sameOn (h : SameOutside start size data data')
    (hapart : start' + size' ≤ start ∨ start + size ≤ start') : SameOn start' size' data data' :=
  ⟨h.length_eq, fun i hi hi' ↦ h.getElem?_eq i (by omega)⟩

theorem set (h : start + block.length ≤ data.length) :
    SameOutside start block.length data (Window.set data start block) := by
  refine ⟨length_set h, fun i hi ↦ ?_⟩
  rcases hi with hi | hi
  · exact getElem?_set_of_lt hi (by omega)
  · exact getElem?_set_of_le hi (by omega)

theorem append (h : SameOutside start size data data')
    (h' : SameOutside (start + size) size' data' data'') :
    SameOutside start (size + size') data data'' :=
  ⟨h'.length_eq.trans h.length_eq,
    fun i hi ↦ (h'.getElem?_eq i (by omega)).trans (h.getElem?_eq i (by omega))⟩

theorem behind (h : SameOutside start size data data') (front : Bytes) :
    SameOutside (front.length + start) size (front ++ data) (front ++ data') := by
  refine ⟨by rw [List.length_append, List.length_append, h.length_eq], fun i hi ↦ ?_⟩
  by_cases hfront : i < front.length
  · rw [List.getElem?_append_left hfront, List.getElem?_append_left hfront]
  · rw [List.getElem?_append_right (by omega), List.getElem?_append_right (by omega),
      h.getElem?_eq _ (by omega)]

end SameOutside

end RecordCodec.Window
