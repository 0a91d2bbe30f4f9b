import Halcyon.Joke.Numbering
import Halcyon.Joke.StmtGen

/-!
# What branch analysis says about executions

`Exec` is the control flow of the statements of a body, with the conditions left open: it says
how statements can be left when they are entered at the start, or in the middle through a label.
A jump leaves all the statements around it at once, and the body is then entered again at the
label, so that a whole execution is a chain of such passes (`Entered`).

Branch analysis takes everything behind a `return` to be out of reach until the next label.  That
is right for a label that is a statement of a block.  A label can also be a part of a conditional
or a loop without braces; it then belongs to the scope around the conditional, a jump can go
there, and the analysis does not notice.  `Stmt.partLabels` are those labels.  `Stmt.live` tells
the labels that the analysis treats right; along an execution without jumps to part labels no
others are entered (`Exec.sound`), so that a function that passes the analysis does not reach its
end.
-/

namespace Halcyon.Joke

open Halcyon.Lib Env

/-! ## Control flow -/

/-- How statements are left: at their end, by a jump, by a `return`, or by a change of state. -/
inductive Exit
  | done
  | jump (label : Nat)
  | ret
  | stateChg
  deriving DecidableEq

/-- The statements that pass control to the statement after them. -/
def Stmt.isSimple : Stmt Nat → Bool
  | .semi | .assign .. | .subAssign .. | .varDecl .. | .exprStmt _ | .label .. => true
  | _ => false

/-- A loop: its body, whether the condition comes before the body, and whether there is one. -/
structure Loop where
  body : Stmt Nat
  testsFirst : Bool
  hasCond : Bool

/-- The loop a statement is. -/
def Stmt.loop? : Stmt Nat → Option Loop
  | .whileLoop _ _ s => some ⟨s, true, true⟩
  | .doWhile _ _ s => some ⟨s, false, true⟩
  | .forLoop _ _ cond _ s => some ⟨s, true, cond.isSome⟩
  | _ => none

/-- `Exec env entry ss x`: statements that are entered at the start (`none`) or at a label can be
left with exit `x`. -/
inductive Exec : Env → Option Nat → List (Stmt Nat) → Exit → Prop
  | nil {env} : Exec env none [] .done
  | next {env m s ss x} (hs : Exec env m [s] .done) (hss : Exec env none ss x) :
      Exec env m (s :: ss) x
  | stop {env m s ss x} (hs : Exec env m [s] x) (hx : x ≠ .done) : Exec env m (s :: ss) x
  | seek {env l s ss x} (hss : Exec env (some l) ss x) : Exec env (some l) (s :: ss) x
  | simple {env s} (h : s.isSimple = true) : Exec env none [s] .done
  | here {env name id} : Exec env (some id) [.label name id] .done
  | ret {env n e} : Exec env none [.ret n e] .ret
  | stateChg {env n dest} : Exec env none [.stateChg n dest] .stateChg
  | jump {env n name l} (h : env.resolveLabel name.text = some l) :
      Exec env none [.jump n name] (.jump l.id)
  | thenPart {env m n cond s t x} (h : Exec env m [s] x) : Exec env m [.ifElse n cond s t] x
  | elsePart {env m n cond s t x} (h : Exec env m [t] x) : Exec env m [.ifElse n cond s t] x
  | loopSkip {env s l} (hl : s.loop? = some l) (hfirst : l.testsFirst = true)
      (hcond : l.hasCond = true) : Exec env none [s] .done
  | loopEnd {env m s l} (hl : s.loop? = some l) (hcond : l.hasCond = true)
      (h : Exec env m [l.body] .done) : Exec env m [s] .done
  | loopAgain {env m s l x} (hl : s.loop? = some l) (h : Exec env m [l.body] .done)
      (hagain : Exec env none [s] x) : Exec env m [s] x
  | loopStop {env m s l x} (hl : s.loop? = some l) (h : Exec env m [l.body] x)
      (hx : x ≠ .done) : Exec env m [s] x
  | block {env m body x} (h : Exec (env.enterBlock body) m body x) : Exec env m [.block body] x

/-! ## Labels -/

mutual

/-- The labels that are a part of a conditional or a loop without braces around them. -/
def Stmt.partLabels : Stmt Nat → List Nat
  | .ifElse _ _ s t => (s.labels ++ t.labels).map LabelSym.id ++ s.partLabels ++ t.partLabels
  | .whileLoop _ _ s | .doWhile _ _ s | .forLoop _ _ _ _ s =>
    s.labels.map LabelSym.id ++ s.partLabels
  | .block body => Stmt.allPartLabels body
  | _ => []

/-- The part labels of the statements of a block. -/
def Stmt.allPartLabels : List (Stmt Nat) → List Nat
  | [] => []
  | s :: ss => s.partLabels ++ Stmt.allPartLabels ss

end

mutual

/-- The label `l` is in the statement, at a place that the analysis does not take to be out of
reach, given that it knows `r` in front of the statement. -/
def Stmt.live (l : Nat) (r : Bool) : Stmt Nat → Prop
  | .label _ id => id = l
  | .ifElse _ _ s t => r = false ∧ (s.live l false ∨ t.live l false)
  | .whileLoop _ _ s | .doWhile _ _ s | .forLoop _ _ _ _ s => r = false ∧ s.live l false
  | .block body => Stmt.liveIn l r body
  | _ => False

/-- The label `l` is among the statements at a place not taken to be out of reach. -/
def Stmt.liveIn (l : Nat) (r : Bool) : List (Stmt Nat) → Prop
  | [] => False
  | s :: ss => s.live l r ∨ Stmt.liveIn l (s.returns r) ss

end

variable {r : Bool} {s : Stmt Nat}

lemma liveIn_singleton {l : Nat} :
    Stmt.liveIn l r [s] ↔ s.live l r := by
  simp [Stmt.liveIn]

lemma allSubs_singleton {A : Type} (s : Stmt A) : Stmt.allSubs [s] = s.subs := by
  simp [Stmt.allSubs]

lemma labelIdsOf_append (ss ts : List (Stmt Nat)) :
    labelIdsOf (ss ++ ts) = labelIdsOf ss ++ labelIdsOf ts := List.filterMap_append

lemma labelIds_ifElse (n : Node) (cond : Root) (s t : Stmt Nat) :
    labelIdsOf (Stmt.allSubs [.ifElse n cond s t]) =
      labelIdsOf (Stmt.allSubs [s]) ++ labelIdsOf (Stmt.allSubs [t]) := by
  simp only [allSubs_singleton]
  exact labelIdsOf_append _ _

variable {l : Loop}

/-- The statements inside a loop are the loop and those inside its body. -/
lemma subs_of_loop (h : s.loop? = some l) :
    s.subs = s :: l.body.subs ∧ s.labelId? = none := by
  cases s <;> cases h <;> exact ⟨rfl, rfl⟩

lemma labelIds_of_loop (h : s.loop? = some l) :
    labelIdsOf s.subs = labelIdsOf l.body.subs := by
  obtain ⟨hsubs, hid⟩ := subs_of_loop h
  rw [hsubs]
  exact List.filterMap_cons_none hid

lemma live_of_loop (h : s.loop? = some l) {k : Nat} :
    s.live k r ↔ r = false ∧ l.body.live k false := by
  cases s <;> cases h <;> exact Iff.rfl

lemma returns_of_loop (h : s.loop? = some l) (r : Bool) :
    s.returns r = r := by
  cases s <;> cases h <;> simp

lemma partLabels_of_loop (h : s.loop? = some l) {k : Nat} (hk : k ∉ s.partLabels) :
    k ∉ l.body.partLabels := by
  cases s <;> cases h <;> exact fun hmem => hk (List.mem_append_right _ hmem)

mutual

lemma Stmt.mem_of_live {l : Nat} {r : Bool} : ∀ s : Stmt Nat, s.live l r → l ∈ labelIdsOf s.subs
  | .label name id, h => by
    obtain rfl : id = l := h
    exact List.mem_singleton.mpr rfl
  | .ifElse n cond s t, h => by
    have hids := labelIds_ifElse n cond s t
    simp only [allSubs_singleton] at hids
    rw [hids]
    exact List.mem_append.mpr (h.2.imp (Stmt.mem_of_live s) (Stmt.mem_of_live t))
  | .whileLoop _ _ s, h | .doWhile _ _ s, h | .forLoop _ _ _ _ s, h => by
    rw [labelIds_of_loop rfl]
    exact Stmt.mem_of_live s h.2
  | .block body, h => Stmt.mem_of_liveIn body h
  | .semi, h | .assign .., h | .subAssign .., h | .varDecl .., h | .exprStmt _, h | .ret .., h
  | .stateChg .., h | .jump .., h => h.elim

lemma Stmt.mem_of_liveIn {l : Nat} {r : Bool} : ∀ ss : List (Stmt Nat),
    Stmt.liveIn l r ss → l ∈ labelIdsOf (Stmt.allSubs ss)
  | [], h => h.elim
  | s :: ss, h => by
    rw [Stmt.allSubs, labelIdsOf_append]
    exact List.mem_append.mpr (h.imp (Stmt.mem_of_live s) (Stmt.mem_of_liveIn ss))

end

variable {env : Env} {ss : List (Stmt Nat)}

/-- Statements are entered at labels inside them. -/
lemma Exec.mem_labelIds {m : Option Nat} {x : Exit} (h : Exec env m ss x) {l : Nat}
    (hm : m = some l) : l ∈ labelIdsOf (Stmt.allSubs ss) := by
  induction h with
  | nil | simple | ret | stateChg | jump | loopSkip => cases hm
  | next _ _ ih | stop _ _ ih =>
    rw [Stmt.allSubs, labelIdsOf_append]
    exact List.mem_append_left _ (by simpa [allSubs_singleton] using ih hm)
  | seek _ ih =>
    rw [Stmt.allSubs, labelIdsOf_append]
    exact List.mem_append_right _ (ih hm)
  | here =>
    obtain rfl := Option.some.inj hm
    exact List.mem_singleton.mpr rfl
  | thenPart _ ih =>
    rw [labelIds_ifElse]
    exact List.mem_append_left _ (ih hm)
  | elsePart _ ih =>
    rw [labelIds_ifElse]
    exact List.mem_append_right _ (ih hm)
  | loopEnd hl _ _ ih | loopAgain hl _ _ ih | loopStop hl _ _ ih =>
    rw [allSubs_singleton] at ih ⊢
    rw [labelIds_of_loop hl]
    exact ih hm
  | block _ ih =>
    rw [allSubs_singleton]
    exact ih hm

/-- The labels of the scopes around a statement. -/
def Env.labelIds (env : Env) : List Nat := (env.blocks.flatMap Prod.snd).map LabelSym.id

variable {label : LabelSym}

lemma resolveLabel_mem {name : String} (h : env.resolveLabel name = some label) :
    label.id ∈ env.labelIds := by
  obtain ⟨b, hb, hlabel⟩ := List.exists_of_findSome?_eq_some h
  exact List.mem_map_of_mem (List.mem_flatMap.mpr ⟨b, hb, List.mem_of_find?_eq_some hlabel⟩)

lemma labelIds_enterBlock (env : Env) (body : List (Stmt Nat)) :
    (env.enterBlock body).labelIds =
      (body.flatMap Stmt.labels).map LabelSym.id ++ env.labelIds := by
  simp [Env.labelIds, Env.enterBlock, Env.enter]

/-- A label of a statement's scope is the statement itself, or a part label. -/
lemma live_of_labels (h : label ∈ s.labels) (hpart : label.id ∉ s.partLabels) (r : Bool) :
    s.live label.id r := by
  cases s with
  | label name id =>
    obtain rfl := List.mem_singleton.mp h
    rfl
  | ifElse n cond s t =>
    refine absurd ?_ hpart
    simp only [Stmt.partLabels, List.append_assoc]
    exact List.mem_append_left _ (List.mem_map_of_mem h)
  | whileLoop | doWhile | forLoop =>
    exact absurd (List.mem_append_left _ (List.mem_map_of_mem h)) hpart
  | _ => exact absurd h List.not_mem_nil

lemma liveIn_of_labels (h : label ∈ ss.flatMap Stmt.labels)
    (hpart : label.id ∉ Stmt.allPartLabels ss) :
    ∀ r, Stmt.liveIn label.id r ss := by
  induction ss with
  | nil => exact absurd h List.not_mem_nil
  | cons s ss ih =>
    intro r
    rw [Stmt.allPartLabels, List.mem_append, not_or] at hpart
    rcases List.mem_append.mp (List.flatMap_cons ▸ h) with h | h
    · exact .inl (live_of_labels h hpart.1 r)
    · exact .inr (ih h hpart.2 _)

/-! ## Soundness -/

/-- What the analysis knows after statements. -/
def Stmt.returnsIn (r : Bool) (ss : List (Stmt Nat)) : Bool := branchReturns r (Stmt.branches ss)

lemma returnsIn_cons (r : Bool) (s : Stmt Nat) (ss : List (Stmt Nat)) :
    Stmt.returnsIn r (s :: ss) = Stmt.returnsIn (s.returns r) ss := branches_cons r s ss

lemma returnsIn_singleton (r : Bool) (s : Stmt Nat) : Stmt.returnsIn r [s] = s.returns r :=
  returnsIn_cons r s []

/-- The analysis does not take the place to be out of reach at which statements are entered. -/
def Reachable (m : Option Nat) (r : Bool) (ss : List (Stmt Nat)) : Prop :=
  match m with
  | none => r = false
  | some l => Stmt.liveIn l r ss

/-- Statements that are entered at a place within reach end at a place within reach, and jump to
the scopes around them or to labels within reach, part labels apart. -/
structure Sound (env : Env) (r : Bool) (ss : List (Stmt Nat)) (x : Exit) : Prop where
  done : x = .done → Stmt.returnsIn r ss = false
  jump : ∀ l, x = .jump l → l ∉ Stmt.allPartLabels ss →
    l ∈ env.labelIds ∨ Stmt.liveIn l r ss

namespace Sound

variable {env : Env} {r : Bool} {s : Stmt Nat} {ss : List (Stmt Nat)} {x : Exit}

/-- Statements that are not left by a jump. -/
lemma noJump (hx : ∀ l, x ≠ .jump l) (h : x = .done → Stmt.returnsIn r ss = false) :
    Sound env r ss x :=
  ⟨h, fun l hl => absurd hl (hx l)⟩

/-- The exit of a part of a statement. -/
lemma part {s' : Stmt Nat} (h : Sound env false [s'] x)
    (hdone : s'.returns false = false → s.returns r = false)
    (hlive : ∀ l, s'.live l false → s.live l r)
    (hpart : ∀ l, l ∉ s.partLabels → l ∉ s'.partLabels) : Sound env r [s] x where
  done hx := by
    rw [returnsIn_singleton]
    exact hdone (returnsIn_singleton _ s' ▸ h.done hx)
  jump l hx hl := by
    rw [Stmt.allPartLabels, Stmt.allPartLabels, List.append_nil] at hl
    refine (h.jump l hx ?_).imp id fun h => ?_
    · simpa [Stmt.allPartLabels] using hpart l hl
    · exact liveIn_singleton.mpr (hlive l (liveIn_singleton.mp h))

end Sound

/-- Entering a conditional or a loop at a place within reach enters its part so. -/
lemma Reachable.part {m : Option Nat} {p : Stmt Nat} (h : Reachable m r [s])
    (hlive : ∀ l, m = some l → s.live l r → r = false ∧ p.live l false) :
    r = false ∧ Reachable m false [p] := by
  cases m with
  | none => exact ⟨h, rfl⟩
  | some l =>
    obtain ⟨hr, hl⟩ := hlive l rfl (liveIn_singleton.mp h)
    exact ⟨hr, liveIn_singleton.mpr hl⟩

lemma nodup_of_cons (h : (labelIdsOf (Stmt.allSubs (s :: ss))).Nodup) :
    (labelIdsOf (Stmt.allSubs [s])).Nodup ∧ (labelIdsOf (Stmt.allSubs ss)).Nodup ∧
      ∀ l ∈ labelIdsOf (Stmt.allSubs [s]), l ∉ labelIdsOf (Stmt.allSubs ss) := by
  rw [Stmt.allSubs, labelIdsOf_append, List.nodup_append] at h
  rw [allSubs_singleton]
  exact ⟨h.1, h.2.1, fun l hl hl' => h.2.2 l hl l hl' rfl⟩

/-- A label within reach of the statements `s :: ss` that is inside `s`. -/
lemma live_of_mem {l : Nat} (hnodup : (labelIdsOf (Stmt.allSubs (s :: ss))).Nodup)
    (h : Stmt.liveIn l r (s :: ss)) (hl : l ∈ labelIdsOf (Stmt.allSubs [s])) :
    Stmt.liveIn l r [s] := by
  rcases h with h | h
  · exact liveIn_singleton.mpr h
  · exact absurd (Stmt.mem_of_liveIn ss h) ((nodup_of_cons hnodup).2.2 l hl)

/-- The analysis is sound for every pass over statements. -/
theorem Exec.sound {m : Option Nat} {x : Exit} (h : Exec env m ss x) :
    ∀ r, Reachable m r ss → (labelIdsOf (Stmt.allSubs ss)).Nodup →
      Sound env r ss x := by
  induction h with
  | nil => exact fun r hr _ => .noJump (by simp) fun _ => hr
  | @next env m s ss x hs _ ihs ihss =>
    intro r hr hnodup
    obtain ⟨hnodup₁, hnodup₂, -⟩ := nodup_of_cons hnodup
    have hr₁ : Reachable m r [s] := by
      cases m with
      | none => exact hr
      | some l => exact live_of_mem hnodup hr (hs.mem_labelIds rfl)
    have hdone := (ihs r hr₁ hnodup₁).done rfl
    rw [returnsIn_singleton] at hdone
    have hrest := ihss (s.returns r) hdone hnodup₂
    refine ⟨fun hx => returnsIn_cons r s ss ▸ hrest.done hx, fun l hx hl => ?_⟩
    rw [Stmt.allPartLabels, List.mem_append, not_or] at hl
    exact (hrest.jump l hx hl.2).imp id .inr
  | @stop env m s ss x hs hx ihs =>
    intro r hr hnodup
    have hr₁ : Reachable m r [s] := by
      cases m with
      | none => exact hr
      | some l => exact live_of_mem hnodup hr (hs.mem_labelIds rfl)
    refine ⟨fun h => absurd h hx, fun l hx hl => ?_⟩
    rw [Stmt.allPartLabels, List.mem_append, not_or] at hl
    refine ((ihs r hr₁ (nodup_of_cons hnodup).1).jump l hx ?_).imp id fun h => ?_
    · simpa [Stmt.allPartLabels] using hl.1
    · exact .inl (liveIn_singleton.mp h)
  | @seek env l s ss x hss ih =>
    intro r hr hnodup
    have hr₁ : Stmt.liveIn l (s.returns r) ss := by
      rcases hr with hr | hr
      · refine absurd (hss.mem_labelIds rfl) ((nodup_of_cons hnodup).2.2 l ?_)
        exact allSubs_singleton s ▸ Stmt.mem_of_live s hr
      · exact hr
    have hrest := ih (s.returns r) hr₁ (nodup_of_cons hnodup).2.1
    refine ⟨fun hx => returnsIn_cons r s ss ▸ hrest.done hx, fun k hx hk => ?_⟩
    rw [Stmt.allPartLabels, List.mem_append, not_or] at hk
    exact (hrest.jump k hx hk.2).imp id .inr
  | @simple env s hs =>
    intro r hr _
    refine .noJump (by simp) fun _ => ?_
    obtain rfl : r = false := hr
    rw [returnsIn_singleton]
    cases s <;> first | rfl | cases hs
  | here => exact fun r _ _ => .noJump (by simp) fun _ => rfl
  | ret | stateChg => exact fun r _ _ => .noJump (by simp) (by simp)
  | jump hlabel =>
    intro r _ _
    refine ⟨by simp, fun l hl _ => .inl ?_⟩
    obtain rfl := Exit.jump.inj hl
    exact resolveLabel_mem hlabel
  | @thenPart env m n cond s t x hs ih =>
    intro r hr hnodup
    rw [labelIds_ifElse, List.nodup_append] at hnodup
    obtain ⟨rfl, hr'⟩ := hr.part (p := s) fun l hm hl => ⟨hl.1, hl.2.resolve_right fun ht => by
      refine hnodup.2.2 l (hs.mem_labelIds hm) l ?_ rfl
      exact allSubs_singleton t ▸ Stmt.mem_of_live t ht⟩
    refine (ih false hr' hnodup.1).part ?_ (fun l hl => ⟨rfl, .inl hl⟩) fun l hl hmem => hl ?_
    · intro hs
      simp [hs]
    · simp [Stmt.partLabels, hmem]
  | @elsePart env m n cond s t x ht ih =>
    intro r hr hnodup
    rw [labelIds_ifElse, List.nodup_append] at hnodup
    obtain ⟨rfl, hr'⟩ := hr.part (p := t) fun l hm hl => ⟨hl.1, hl.2.resolve_left fun hs => by
      refine hnodup.2.2 l ?_ l (ht.mem_labelIds hm) rfl
      exact allSubs_singleton s ▸ Stmt.mem_of_live s hs⟩
    refine (ih false hr' hnodup.2.1).part ?_ (fun l hl => ⟨rfl, .inr hl⟩) fun l hl hmem => hl ?_
    · intro ht
      simp [ht]
    · simp [Stmt.partLabels, hmem]
  | loopSkip hl =>
    intro r hr _
    refine .noJump (by simp) fun _ => ?_
    obtain rfl : r = false := hr
    rw [returnsIn_singleton, returns_of_loop hl]
  | loopEnd hl _ _ ih =>
    intro r hr hnodup
    refine .noJump (by simp) fun _ => ?_
    obtain ⟨rfl, -⟩ := hr.part fun l _ => (live_of_loop hl).mp
    rw [returnsIn_singleton, returns_of_loop hl]
  | loopAgain hl _ _ _ ih =>
    intro r hr hnodup
    obtain ⟨rfl, -⟩ := hr.part fun l _ => (live_of_loop hl).mp
    exact ih false rfl hnodup
  | loopStop hl _ hx ih =>
    intro r hr hnodup
    obtain ⟨rfl, hr'⟩ := hr.part fun l _ => (live_of_loop hl).mp
    rw [allSubs_singleton, labelIds_of_loop hl, ← allSubs_singleton] at hnodup
    refine (ih false hr' hnodup).part ?_ ?_ ?_
    · exact fun _ => returns_of_loop hl false
    · exact fun l h => (live_of_loop hl).mpr ⟨rfl, h⟩
    · exact fun l => partLabels_of_loop hl
  | @block env m body x _ ih =>
    intro r hr hnodup
    have hr' : Reachable m r body := by
      cases m with
      | none => exact hr
      | some l => exact liveIn_singleton.mp hr
    rw [allSubs_singleton] at hnodup
    have hbody := ih r hr' hnodup
    refine ⟨fun hx => returnsIn_singleton r (.block body) ▸ hbody.done hx, fun l hx hl => ?_⟩
    have hpart : l ∉ Stmt.allPartLabels body := by
      simpa [Stmt.allPartLabels, Stmt.partLabels] using hl
    rcases hbody.jump l hx hpart with hmem | hlive
    · rw [labelIds_enterBlock] at hmem
      rcases List.mem_append.mp hmem with hmem | hmem
      · obtain ⟨label, hlabel, rfl⟩ := List.mem_map.mp hmem
        exact .inr (liveIn_singleton.mpr (liveIn_of_labels hlabel hpart r))
      · exact .inl hmem
    · exact .inr (liveIn_singleton.mpr hlive)

/-- The places at which a body is entered in an execution of it: the start, and the labels its
jumps go to.  `ok` restricts the jumps. -/
inductive Entered (ok : Nat → Prop) (env : Env) (body : List (Stmt Nat)) : Option Nat → Prop
  | start : Entered ok env body none
  | jump {m l} (h : Entered ok env body m) (hx : Exec env m body (.jump l)) (hl : ok l) :
      Entered ok env body (some l)

/-- The scopes of the body of a function of a script. -/
def bodyEnv (b : Builtins) (src : Source) (script : Script Nat) (f : FuncDef Nat) : Env :=
  ((scriptEnv b src script).function f).enterBlock f.body

/-- An execution without jumps to part labels enters a body at places within reach only. -/
lemma Entered.reachable {body : List (Stmt Nat)} {m : Option Nat} (hblocks : env.blocks = [])
    (hnodup : (labelIdsOf (Stmt.allSubs body)).Nodup)
    (h : Entered (· ∉ Stmt.allPartLabels body) (env.enterBlock body) body m) :
    Reachable m false body := by
  induction h with
  | start => rfl
  | @jump m l _ hx hl ih =>
    rcases (hx.sound false ih hnodup).jump l rfl hl with hmem | hlive
    · have hnone : env.labelIds = [] := by simp [Env.labelIds, hblocks]
      rw [labelIds_enterBlock, hnone, List.append_nil] at hmem
      obtain ⟨label, hlabel, rfl⟩ := List.mem_map.mp hmem
      exact liveIn_of_labels hlabel hl false
    · exact hlive

/-- Branch analysis is sound for executions without jumps to labels that are a part of a
conditional or a loop: such an execution of a function that has a type and passes the analysis
does not reach the end of the body. -/
theorem not_done_of_returnsChecked {b : Builtins} {src : Source} {script : Script Unit}
    {numbered : Script Nat} (hdef : defScript b script = .ok numbered) {f : FuncDef Nat}
    (hf : f ∈ functionsOf numbered) (htype : f.returnType.isSome = true)
    (hret : f.returnsChecked = true) {m : Option Nat}
    (h : Entered (· ∉ Stmt.allPartLabels f.body) (bodyEnv b src numbered f) f.body m) :
    ¬ Exec (bodyEnv b src numbered f) m f.body .done := by
  intro hdone
  have hnodup := ((scriptNumbered hdef).functions f hf).labelIds
  have hfalse := (hdone.sound false (h.reachable rfl hnodup) hnodup).done rfl
  have htrue : f.allCodePathsReturn = true := by
    cases hr : f.returnType with
    | none => simp [hr] at htype
    | some t => simpa [FuncDef.returnsChecked, hr] using hret
  exact absurd (htrue.symm.trans hfalse) (by simp)

namespace ReturnSample

def source : Source := ⟨fun _ _ => "", some⟩

def node (text : String) (index : Nat) : Node := ⟨text, 1, 0, index, index⟩

def ident (text : String) (index : Nat) : Root := ⟨node "EXPR" index, .id (node text index)⟩

def one (index : Nat) : Root := ⟨node "EXPR" index, .intLit (node "1" index)⟩

/-- `integer f(integer a) { @l; if (a) jump l; return 1; }` -/
def jumpsBack (A : Type) (number : Nat → A) : FuncDef A :=
  ⟨some .integer, node "f" 1, [⟨.integer, node "a" 4⟩],
    [.label (node "l" 8) (number 0), .ifElse (node "if" 10) (ident "a" 12)
      (.jump (node "jump" 14) (node "l" 15)) .semi, .ret (node "return" 17) (some (one 18))],
    number 1⟩

theorem not_done_jumpsBack :
    Entered (· ∉ Stmt.allPartLabels (jumpsBack Nat id).body)
      (bodyEnv .empty source [.funcDef (jumpsBack Nat id)] (jumpsBack Nat id))
      (jumpsBack Nat id).body (some 0) ∧
    ¬ Exec (bodyEnv .empty source [.funcDef (jumpsBack Nat id)] (jumpsBack Nat id)) (some 0)
      (jumpsBack Nat id).body .done := by
  have hjump : Exec (bodyEnv .empty source [.funcDef (jumpsBack Nat id)] (jumpsBack Nat id)) none
      (jumpsBack Nat id).body (.jump 0) :=
    .next (.simple rfl) (.stop (.thenPart (.jump (l := ⟨"l", 0⟩) rfl)) (by simp))
  have hentered : Entered (· ∉ Stmt.allPartLabels (jumpsBack Nat id).body)
      (bodyEnv .empty source [.funcDef (jumpsBack Nat id)] (jumpsBack Nat id))
      (jumpsBack Nat id).body (some 0) := .jump .start hjump (by decide)
  have hdef : defScript .empty [.funcDef (jumpsBack Unit fun _ => ())] =
      .ok [.funcDef (jumpsBack Nat id)] := rfl
  exact ⟨hentered, not_done_of_returnsChecked hdef (List.mem_singleton.mpr rfl) rfl rfl hentered⟩

/-- `integer f(integer a) { if (a) jump l; return 1; if (a) @l; }` -/
def jumpsToPart (A : Type) (number : Nat → A) : FuncDef A :=
  ⟨some .integer, node "f" 1, [⟨.integer, node "a" 4⟩],
    [.ifElse (node "if" 7) (ident "a" 9) (.jump (node "jump" 11) (node "l" 12)) .semi,
      .ret (node "return" 14) (some (one 15)),
      .ifElse (node "if" 17) (ident "a" 19) (.label (node "l" 22) (number 0)) .semi],
    number 1⟩

/-- A function that passes all checks and reaches its end. -/
theorem done_jumpsToPart :
    ∃ numbered f m, Accepted .empty source [.funcDef (jumpsToPart Unit fun _ => ())] numbered ∧
      f ∈ functionsOf numbered ∧ f.returnType.isSome = true ∧ f.returnsChecked = true ∧
      Entered (fun _ => True) (bodyEnv .empty source numbered f) f.body m ∧
      Exec (bodyEnv .empty source numbered f) m f.body .done := by
  refine ⟨[.funcDef (jumpsToPart Nat id)], jumpsToPart Nat id, some 0, ⟨rfl, rfl, by decide⟩,
    List.mem_singleton.mpr rfl, rfl, rfl, ?_, ?_⟩
  · refine .jump .start (.stop (.thenPart (.jump (l := ⟨"l", 0⟩) rfl)) (by simp)) trivial
  · exact .seek (.seek (.thenPart .here))

end ReturnSample

end Halcyon.Joke
