import RecordCodec.Proofs.Expansion.Read

namespace RecordCodec.Expansion

variable {order : ByteOrder} {data data' : Bytes} {start start' size : Nat}

theorem Place.window_eq_of_get_eq {place : Place} (hend : place.offset + place.leaf.size ≤ size)
    (h : Window.get data start size = Window.get data' start' size) :
    place.window data start = place.window data' start' := by
  rw [window, window, ← Window.get_get data start hend, h, Window.get_get data' start' hend]

theorem read_eq_of_get_eq (order : ByteOrder) {x : Expansion} (hsound : x.Sound)
    (hfit : start + x.size ≤ data.length) (hfit' : start' + x.size ≤ data'.length)
    (h : Window.get data start x.size = Window.get data' start' x.size) :
    x.read order data start = x.read order data' start' := by
  obtain ⟨v, hv, hv', -⟩ := exists_reads order order data data' x hsound start start' hfit hfit'
    fun place hp ↦ by
      rw [DecodeAlike, place.window_eq_of_get_eq (x.packed_places.bounds hp).2 h]
  rw [hv, hv']

section Members

variable {members front rest : List (String × Expansion)} {name : String} {x : Expansion}

theorem exists_readMembers_of_get_eq (order : ByteOrder) (hsound : ∀ m ∈ members, m.2.Sound)
    (hnodup : (members.map Prod.fst).Nodup) (hfit : start + sizeAll members ≤ data.length)
    (hfit' : start' + sizeAll members ≤ data'.length)
    (h : Window.get data start (sizeAll members) = Window.get data' start' (sizeAll members)) :
    ∃ entries, readMembers order data members start = .ok (entries, sizeAll members) ∧
      readMembers order data' members start' = .ok (entries, sizeAll members) := by
  obtain ⟨entries, hentries, hentries', -⟩ := exists_readsMembers order order data data' 0 members
    hsound hnodup start start' hfit hfit' fun place hp ↦ by
      have hbounds := (packed_placesFrom 0 members).bounds hp
      rw [Nat.zero_add] at hbounds
      rw [DecodeAlike, place.window_eq_of_get_eq hbounds.2 h]
  exact ⟨entries, hentries, hentries'⟩

theorem names_of_readMembers {entries : List (String × Value)} {n : Nat}
    (h : readMembers order data members start = .ok (entries, n)) :
    entries.map Prod.fst = members.map Prod.fst := by
  induction members generalizing start entries n with
  | nil =>
    cases h
    rfl
  | cons m rest ih =>
    obtain ⟨⟨v, k⟩, -, h⟩ := bind_eq_ok.1 h
    obtain ⟨⟨others, k'⟩, hothers, h⟩ := bind_eq_ok.1 h
    cases h
    exact congrArg (m.1 :: ·) (ih hothers)

theorem exists_readMembers_apart (order : ByteOrder) (front : List (String × Expansion))
    (hsound : ∀ m ∈ front ++ (name, x) :: rest, m.2.Sound)
    (hnodup : ((front ++ (name, x) :: rest).map Prod.fst).Nodup)
    (hfit : start + sizeAll (front ++ (name, x) :: rest) ≤ data.length)
    (hsame : Window.SameOutside (start + sizeAll front) x.size data data') :
    ∃ before v v' behind,
      readMembers order data (front ++ (name, x) :: rest) start =
        .ok (before ++ (name, v) :: behind, sizeAll (front ++ (name, x) :: rest)) ∧
      readMembers order data' (front ++ (name, x) :: rest) start =
        .ok (before ++ (name, v') :: behind, sizeAll (front ++ (name, x) :: rest)) := by
  have hlength := hsame.length_eq
  induction front generalizing start with
  | nil =>
    simp only [List.nil_append, sizeAll, Nat.add_zero] at hsound hnodup hfit hsame ⊢
    have hx := hsound _ List.mem_cons_self
    obtain ⟨v, hv⟩ := exists_read order data x hx start (by omega)
    obtain ⟨v', hv'⟩ := exists_read order data' x hx start (by omega)
    have hrest : Window.SameOn (start + x.size) (sizeAll rest) data data' :=
      hsame.sameOn (.inr (Nat.le_refl _))
    obtain ⟨behind, hbehind, hbehind'⟩ := exists_readMembers_of_get_eq order
      (fun m hm ↦ hsound m (List.mem_cons_of_mem _ hm)) (List.nodup_cons.1 hnodup).2 (by omega)
      (by omega) hrest.get_eq.symm
    refine ⟨[], v, v', behind, ?_, ?_⟩
    · exact readMembers_cons hv hbehind
    · exact readMembers_cons hv' hbehind'
  | cons m front ih =>
    simp only [List.cons_append, sizeAll] at hsound hnodup hfit hsame ⊢
    have hhead : Window.SameOn start m.2.size data data' := hsame.sameOn (.inl (by omega))
    have hread := read_eq_of_get_eq order (hsound m List.mem_cons_self) (by omega) (by omega)
      hhead.get_eq
    obtain ⟨w, hw⟩ := exists_read order data m.2 (hsound m List.mem_cons_self) start (by omega)
    rw [← Nat.add_assoc] at hsame
    obtain ⟨before, v, v', behind, hv, hv'⟩ := ih
      (fun m hm ↦ hsound m (List.mem_cons_of_mem _ hm)) (List.nodup_cons.1 hnodup).2 (by omega)
      hsame
    refine ⟨(m.1, w) :: before, v, v', behind, ?_, ?_⟩
    · exact readMembers_cons hw hv
    · exact readMembers_cons (hread.trans hw) hv'

end Members

end RecordCodec.Expansion
