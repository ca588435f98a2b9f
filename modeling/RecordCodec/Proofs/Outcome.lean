import Mathlib.Data.List.Forall2
import RecordCodec.Error

namespace RecordCodec

theorem bind_eq_ok {α β : Type} {x : Except Error α} {f : α → Except Error β} {b : β} :
    x >>= f = .ok b ↔ ∃ a, x = .ok a ∧ f a = .ok b := by
  cases x with
  | error e => exact ⟨fun h ↦ (nomatch h), fun ⟨_, h, _⟩ ↦ (nomatch h)⟩
  | ok a => exact ⟨fun h ↦ ⟨a, rfl, h⟩, fun ⟨_, h, h'⟩ ↦ by cases h; exact h'⟩

theorem map_eq_ok {α β : Type} {x : Except Error α} {f : α → β} {b : β} :
    x.map f = .ok b ↔ ∃ a, x = .ok a ∧ f a = b := by
  cases x with
  | error e => exact ⟨fun h ↦ (nomatch h), fun ⟨_, h, _⟩ ↦ (nomatch h)⟩
  | ok a =>
    exact ⟨fun h ↦ ⟨a, rfl, Except.ok.inj h⟩, fun ⟨_, h, h'⟩ ↦ by cases h; exact congrArg _ h'⟩

@[simp]
theorem ok_bind {α β : Type} (a : α) (f : α → Except Error β) : Except.ok a >>= f = f a :=
  rfl

theorem exists_of_isOk {α : Type} {x : Except Error α} (h : x.isOk = true) : ∃ a, x = .ok a := by
  cases x with
  | error e => cases h
  | ok a => exact ⟨a, rfl⟩

/-- What outcomes are compared by: the result, or the kind of the error. -/
def verdict {α : Type} : Except Error α → α ⊕ ErrorKind
  | .ok a => .inl a
  | .error e => .inr e.kind

theorem eq_ok_of_verdict {α β : Type} {call : Except Error α × β} {a : α} {b : β}
    (h : verdict call.1 = .inl a ∧ call.2 = b) : call = (.ok a, b) := by
  obtain ⟨x, b'⟩ := call
  obtain ⟨hx, rfl⟩ := h
  cases x with
  | ok a' =>
    cases hx
    rfl
  | error e => cases hx

theorem exists_error_of_verdict {α β : Type} {call : Except Error α × β} {kind : ErrorKind} {b : β}
    (h : verdict call.1 = .inr kind ∧ call.2 = b) :
    ∃ e, call = (.error e, b) ∧ e.kind = kind := by
  obtain ⟨x, b'⟩ := call
  obtain ⟨hx, rfl⟩ := h
  cases x with
  | ok a => cases hx
  | error e =>
    cases hx
    exact ⟨e, rfl, rfl⟩

theorem not_exists_ok {α : Type} (e : Error) : ¬ ∃ a, (.error e : Except Error α) = .ok a := by
  rintro ⟨a, h⟩
  cases h

def FailsWith {α : Type} (P : Error → Prop) (outcome : Except Error α) : Prop :=
  ∀ e, outcome = .error e → P e

namespace FailsWith

variable {α β : Type} {P : Error → Prop}

theorem ok (a : α) : FailsWith P (.ok a) :=
  nofun

theorem error {e : Error} (h : P e) : FailsWith P (.error e : Except Error α) := by
  intro e' he
  cases he
  exact h

theorem mono {Q : Error → Prop} {x : Except Error α} (h : FailsWith P x) (hPQ : ∀ e, P e → Q e) :
    FailsWith Q x :=
  fun e he ↦ hPQ e (h e he)

theorem bind {x : Except Error α} {f : α → Except Error β} (hx : FailsWith P x)
    (hf : ∀ a, FailsWith P (f a)) : FailsWith P (x >>= f) := by
  cases x with
  | error e => exact error (hx e rfl)
  | ok a => exact hf a

theorem foldlM {f : β → α → Except Error β} {items : List α}
    (h : ∀ b, ∀ a ∈ items, FailsWith P (f b a)) (b : β) : FailsWith P (items.foldlM f b) := by
  induction items generalizing b with
  | nil => exact ok b
  | cons a items ih =>
    rw [List.foldlM_cons]
    exact (h b a List.mem_cons_self).bind
      fun c ↦ ih (fun b a ha ↦ h b a (List.mem_cons_of_mem _ ha)) c

end FailsWith

theorem exists_of_forall₂ {α β : Type} {R : α → β → Prop} {xs : List α} {ys : List β}
    (h : xs.Forall₂ R ys) {y : β} (hy : y ∈ ys) : ∃ x ∈ xs, R x y := by
  induction h with
  | nil => cases hy
  | @cons a b xs ys hab _ ih =>
    rcases List.mem_cons.1 hy with rfl | hy
    · exact ⟨a, List.mem_cons_self, hab⟩
    · obtain ⟨x, hx, hR⟩ := ih hy
      exact ⟨x, List.mem_cons_of_mem _ hx, hR⟩

theorem exists_append_of_forall₂ {α β : Type} {R : α → β → Prop} {front rest : List α} {x : α}
    {ys : List β} (h : (front ++ x :: rest).Forall₂ R ys) : ∃ front' y rest',
      ys = front' ++ y :: rest' ∧ front.Forall₂ R front' ∧ R x y := by
  induction front generalizing ys with
  | nil =>
    cases h with
    | cons hxy _ => exact ⟨[], _, _, rfl, .nil, hxy⟩
  | cons a front ih =>
    cases h with
    | cons hab h =>
      obtain ⟨front', y, rest', rfl, hfront, hxy⟩ := ih h
      exact ⟨_ :: front', y, rest', rfl, .cons hab hfront, hxy⟩

theorem map_eq_map_of_forall₂ {α β γ : Type} {f : α → γ} {g : β → γ} {xs : List α} {ys : List β}
    (h : xs.Forall₂ (fun x y ↦ g y = f x) ys) : ys.map g = xs.map f := by
  induction h with
  | nil => rfl
  | cons hab _ ih => rw [List.map_cons, List.map_cons, hab, ih]

theorem mapM_eq_some {α β : Type} {f : α → Option β} {xs : List α} {ys : List β} :
    xs.mapM f = some ys ↔ xs.Forall₂ (fun x y ↦ f x = some y) ys := by
  induction xs generalizing ys with
  | nil => simp [eq_comm]
  | cons x xs ih =>
    simp only [List.mapM_cons, bind, Option.bind_eq_some_iff, pure, Option.some.injEq, ih,
      List.forall₂_cons_left_iff]
    constructor
    · rintro ⟨y, hy, ys, hys, rfl⟩
      exact ⟨y, ys, hy, hys, rfl⟩
    · rintro ⟨y, ys, hy, hys, rfl⟩
      exact ⟨y, hy, ys, hys, rfl⟩

theorem exists_forall₂ {α β : Type} {R : α → β → Prop} {xs : List α}
    (h : ∀ x ∈ xs, ∃ y, R x y) : ∃ ys, xs.Forall₂ R ys := by
  induction xs with
  | nil => exact ⟨[], .nil⟩
  | cons x xs ih =>
    obtain ⟨y, hy⟩ := h x List.mem_cons_self
    obtain ⟨ys, hys⟩ := ih fun a ha ↦ h a (List.mem_cons_of_mem _ ha)
    exact ⟨y :: ys, .cons hy hys⟩

end RecordCodec
