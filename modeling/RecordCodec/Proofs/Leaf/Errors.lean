import RecordCodec.Leaf
import RecordCodec.Proofs.Bitfield.Layout

namespace RecordCodec

abbrev Ends {α : Type} (outcome : Except Error α) : Prop :=
  FailsWith (· ≠ .endless) outcome

/-- Whether an error is one of those that a value is rejected with. -/
def Error.IsRejection (e : Error) : Prop :=
  e.causeKind = .encode ∨ e.causeKind = .widthOverflow

abbrev FailsToEncode {α : Type} (outcome : Except Error α) : Prop :=
  FailsWith (fun e ↦ e.causeKind = .encode) outcome

theorem FailsToEncode.ends {α : Type} {outcome : Except Error α} (h : FailsToEncode outcome) :
    Ends outcome := by
  refine h.mono ?_
  rintro e he rfl
  cases he

namespace Layout

theorem push_refuses (l : Layout) (name width : Value) :
    FailsWith (fun e ↦ e.causeKind = .definition) (l.push name width) := by
  rcases l.push_cases (name, width) with ⟨l', hl', -, -⟩ | ⟨e, he, hfault⟩
  · exact hl' ▸ .ok l'
  · exact he ▸ .error hfault.causeKind_eq

theorem push_ends (l : Layout) (name width : Value) : Ends (l.push name width) := by
  refine (l.push_refuses name width).mono ?_
  rintro e he rfl
  cases he

theorem pairOf_ends (v : Value) : Ends (pairOf v) := by
  unfold pairOf
  split
  · exact .ok _
  · exact .error nofun
  · exact .error nofun
  · split
    · exact .ok _
    · exact .error nofun
    · exact .error nofun

theorem itemsOf_ends (v : Value) : Ends (itemsOf v) := by
  unfold itemsOf
  split
  · exact .ok _
  · split
    · exact .ok _
    · exact .error nofun
    · split
      · exact .ok _
      · exact .error nofun

theorem fit_refuses (l : Layout) (width : Int) (container : String) :
    FailsWith (fun e ↦ e.causeKind = .widthOverflow) (l.fit width container) := by
  unfold fit
  split
  · exact .ok _
  · exact .error rfl

theorem fit_ends (l : Layout) (width : Int) (container : String) :
    Ends (l.fit width container) := by
  refine (l.fit_refuses width container).mono ?_
  rintro e he rfl
  cases he

theorem build_ends (v : Value) (width : Int) (container : String) :
    Ends (build v width container) := by
  refine (itemsOf_ends v).bind fun items ↦ .bind ?_ fun l ↦ fit_ends l width container
  exact .foldlM (fun l item _ ↦ (pairOf_ends item).bind fun pair ↦ push_ends l _ _) _

end Layout

namespace Bitfield

theorem ofRaw_ends (c : Container) (raw : Int) (layout : Value) : Ends (ofRaw c raw layout) := by
  unfold ofRaw
  split
  · exact (Layout.build_ends _ _ _).bind fun l ↦ .ok _
  · exact .error nofun

theorem runValue_failsToEncode (name : String) (v : Value) : FailsToEncode (runValue name v) := by
  unfold runValue
  split
  · exact .ok _
  · exact .ok _
  · split
    · exact .ok _
    · exact .error rfl
  · exact .error rfl

theorem assign_failsToEncode (b : Bitfield) (entry : String × Value) :
    FailsToEncode (b.assign entry) := by
  unfold assign
  split
  · exact .error rfl
  · exact (runValue_failsToEncode _ _).bind fun n ↦ .ok _

theorem coerce_ends (c : Container) (v layout : Value) : Ends (coerce c v layout) := by
  unfold coerce
  split
  · split
    · exact .ok _
    · exact .error nofun
  · exact ofRaw_ends _ _ _
  · exact (ofRaw_ends _ _ _).bind fun start ↦
      .foldlM (fun b entry _ ↦ (assign_failsToEncode b entry).ends) _
  · exact .error nofun

end Bitfield

namespace Leaf

variable (l : Leaf) (order : ByteOrder) (options : Value)

theorem decode_ends (block : Bytes) : Ends (l.decode order options block) := by
  unfold decode
  split
  case h_7 => exact (Bitfield.ofRaw_ends _ _ _).bind fun b ↦ .ok _
  all_goals exact .ok _

theorem read_ends (buffer : Bytes) (offset : Int) : Ends (l.read order options buffer offset) := by
  unfold read
  split
  · split
    · exact .error nofun
    · exact .error nofun
  · exact l.decode_ends order options _

theorem charByte_failsToEncode (v : Value) : FailsToEncode (charByte v) := by
  unfold charByte
  split
  · split
    · exact .ok _
    · exact .error rfl
    · exact .error rfl
  · split
    · exact .ok _
    · exact .error rfl
  · exact .ok _
  · exact .error rfl

theorem prepare_ends (data : Bytes) (s : Source) : Ends (l.prepare options data s) := by
  unfold prepare
  split
  · exact (charByte_failsToEncode _).ends.bind fun b ↦ .ok _
  · exact .ok _
  · exact (Bitfield.coerce_ends _ _ _).bind fun b ↦ .ok _
  · exact .ok _

end Leaf

def WriteEnds {α : Type} (action : WriteM α) : Prop :=
  ∀ data e after, action.run data = .error e after → e ≠ .endless

namespace WriteEnds

variable {α β : Type}

theorem pure (a : α) : WriteEnds (Pure.pure a : WriteM α) :=
  nofun

theorem throw {e : Error} (h : e ≠ .endless) : WriteEnds (MonadExcept.throw e : WriteM α) := by
  intro data e' after he
  cases he
  exact h

theorem get : WriteEnds (MonadState.get : WriteM Bytes) :=
  nofun

theorem set (data : Bytes) : WriteEnds (MonadStateOf.set data : WriteM PUnit) :=
  nofun

theorem bind {x : WriteM α} {f : α → WriteM β} (hx : WriteEnds x) (hf : ∀ a, WriteEnds (f a)) :
    WriteEnds (x >>= f) := by
  intro data e after h
  rw [EStateM.run_bind] at h
  cases hrun : x.run data with
  | error e' after' =>
    rw [hrun] at h
    cases h
    exact hx data e after hrun
  | ok a data' =>
    rw [hrun] at h
    exact hf a data' e after h

end WriteEnds

namespace Leaf

variable (l : Leaf) (order : ByteOrder) (options : Value)

theorem store_ends (s : Source) (offset : Int) : WriteEnds (l.store order s offset) := by
  unfold store
  refine .bind .get fun data ↦ ?_
  split
  · refine .throw ?_
    split
    · exact nofun
    · exact nofun
  · split
    · exact .bind (.set _) fun _ ↦ .pure _
    · exact .bind (.set _) fun _ ↦ .throw nofun

theorem write_ends (s : Source) (offset : Int) : WriteEnds (l.write order options s offset) := by
  unfold write
  refine .bind .get fun data ↦ ?_
  have hprepare := l.prepare_ends options data s
  split
  · rename_i e he
    exact .throw (hprepare e he)
  · exact l.store_ends order _ offset

end Leaf

end RecordCodec
