import Halcyon.Joke.Def

/-!
# What the definition pass establishes

The facts about the numbered tree that the later passes rely on.  The tree is the one the parser
built (`Stmt.erase`); the slots of a body, in the order of the text and through all nested
blocks, are consecutive numbers, and so are the labels; the names one block defines are distinct.

`Numbered` collects them for a statement.  `numbered_defStmt` proves them by induction over the
statement, where `Numbered.seq` joins two parts that are visited one after the other.
-/

namespace Halcyon.Joke

open Halcyon.Lib Env

/-! ## Consecutive numbers -/

/-- The numbers from `a` up to `b`, without `b`. -/
def Consecutive (a : Nat) (xs : List Nat) (b : Nat) : Prop :=
  a ≤ b ∧ xs = List.range' a (b - a)

namespace Consecutive

variable {a b c : Nat} {xs ys : List Nat}

lemma nil : Consecutive a [] a := ⟨Nat.le_refl a, by simp⟩

lemma single : Consecutive a [a] (a + 1) := ⟨Nat.le_succ a, by simp⟩

lemma append (h : Consecutive a xs b) (h' : Consecutive b ys c) : Consecutive a (xs ++ ys) c := by
  obtain ⟨hab, rfl⟩ := h
  obtain ⟨hbc, rfl⟩ := h'
  refine ⟨hab.trans hbc, ?_⟩
  obtain ⟨n, rfl⟩ := Nat.exists_eq_add_of_le hab
  obtain ⟨m, rfl⟩ := Nat.exists_eq_add_of_le hbc
  rw [Nat.add_sub_cancel_left, Nat.add_sub_cancel_left, Nat.add_assoc, Nat.add_sub_cancel_left,
    List.range'_append_1]

lemma nodup (h : Consecutive a xs b) : xs.Nodup := h.2 ▸ List.nodup_range'

lemma mem (h : Consecutive a xs b) {x : Nat} : x ∈ xs ↔ a ≤ x ∧ x < b := by
  obtain ⟨hab, rfl⟩ := h
  rw [List.mem_range'_1]
  omega

end Consecutive

/-! ## Statements inside statements -/

mutual

/-- A statement and all the statements inside it, in the order of the text. -/
def Stmt.subs {A : Type} : Stmt A → List (Stmt A)
  | .ifElse n cond s t => .ifElse n cond s t :: (s.subs ++ t.subs)
  | .whileLoop n cond s => .whileLoop n cond s :: s.subs
  | .doWhile n cond s => .doWhile n cond s :: s.subs
  | .forLoop n init cond loop s => .forLoop n init cond loop s :: s.subs
  | .block body => .block body :: Stmt.allSubs body
  | s => [s]

/-- The statements of a block and all the statements inside them. -/
def Stmt.allSubs {A : Type} : List (Stmt A) → List (Stmt A)
  | [] => []
  | s :: ss => s.subs ++ Stmt.allSubs ss

end

/-- The slot of a declaration. -/
def Stmt.slot? : Stmt Nat → Option Nat
  | .varDecl _ _ _ _ slot => some slot
  | _ => none

/-- The number of a label. -/
def Stmt.labelId? : Stmt Nat → Option Nat
  | .label _ id => some id
  | _ => none

/-- The slots of the declarations in some statements. -/
def slotsOf (ss : List (Stmt Nat)) : List Nat := ss.filterMap Stmt.slot?

/-- The numbers of the labels in some statements. -/
def labelIdsOf (ss : List (Stmt Nat)) : List Nat := ss.filterMap Stmt.labelId?

/-- The names a statement defines in the scope it stands in, in the order of the text; those of
labels have a sign in front. -/
def Stmt.scopeNames : Stmt Nat → List String
  | .varDecl _ _ name _ _ => [name.text]
  | .label name _ => ["@" ++ name.text]
  | .ifElse _ _ s t => s.scopeNames ++ t.scopeNames
  | .whileLoop _ _ s | .doWhile _ _ s | .forLoop _ _ _ _ s => s.scopeNames
  | _ => []

mutual

/-- The tree without the numbers. -/
def Stmt.erase : Stmt Nat → Stmt Unit
  | .semi => .semi
  | .assign n op lhs rhs => .assign n op lhs rhs
  | .subAssign n op lhs sub rhs => .subAssign n op lhs sub rhs
  | .ifElse n cond s t => .ifElse n cond s.erase t.erase
  | .whileLoop n cond s => .whileLoop n cond s.erase
  | .doWhile n cond s => .doWhile n cond s.erase
  | .forLoop n init cond loop s => .forLoop n init cond loop s.erase
  | .varDecl n type name init _ => .varDecl n type name init ()
  | .exprStmt e => .exprStmt e
  | .ret n e => .ret n e
  | .stateChg n dest => .stateChg n dest
  | .label name _ => .label name ()
  | .jump n name => .jump n name
  | .block body => .block (Stmt.eraseAll body)

/-- The statements of a block without the numbers. -/
def Stmt.eraseAll : List (Stmt Nat) → List (Stmt Unit)
  | [] => []
  | s :: ss => s.erase :: Stmt.eraseAll ss

end

mutual

lemma Stmt.parsed_erase : ∀ s : Stmt Nat, s.erase.parsed = s.parsed
  | .semi | .assign .. | .subAssign .. | .varDecl .. | .exprStmt _ | .ret .. | .stateChg ..
  | .label .. | .jump .. => rfl
  | .ifElse _ cond s t => by
    simp only [Stmt.erase, Stmt.parsed, Stmt.parsed_erase s, Stmt.parsed_erase t]
  | .whileLoop _ _ s | .doWhile _ _ s | .forLoop _ _ _ _ s => by
    simp only [Stmt.erase, Stmt.parsed, Stmt.parsed_erase s]
  | .block body => Stmt.allParsed_eraseAll body

lemma Stmt.allParsed_eraseAll : ∀ ss : List (Stmt Nat),
    Stmt.allParsed (Stmt.eraseAll ss) = Stmt.allParsed ss
  | [] => rfl
  | s :: ss => by
    simp only [Stmt.eraseAll, Stmt.allParsed, Stmt.parsed_erase s, Stmt.allParsed_eraseAll ss]

end

/-! ## Numbered statements -/

/-- The names a block defines are distinct, for every block among some statements. -/
def BlocksDistinct (ss : List (Stmt Nat)) : Prop :=
  ∀ body, Stmt.block body ∈ ss → (body.flatMap Stmt.scopeNames).Nodup

/-- What the definition pass establishes between the states `st` and `st'`, for statements
`subs` with the names `names`. -/
structure Numbered (st : DefState) (subs : List (Stmt Nat)) (names : List String)
    (st' : DefState) : Prop where
  slots : Consecutive st.varIndex (slotsOf subs) st'.varIndex
  labelIds : Consecutive st.labelIndex (labelIdsOf subs) st'.labelIndex
  names : st'.names = names.reverse ++ st.names
  nodup : st.names.Nodup → st'.names.Nodup
  blocks : BlocksDistinct subs

namespace Numbered

variable {st st₁ st' : DefState} {subs subs' : List (Stmt Nat)} {names names' : List String}

lemma nil : Numbered st [] [] st where
  slots := .nil
  labelIds := .nil
  names := rfl
  nodup := id
  blocks := by simp [BlocksDistinct]

/-- Two parts, one after the other. -/
lemma seq (h : Numbered st subs names st₁) (h' : Numbered st₁ subs' names' st') :
    Numbered st (subs ++ subs') (names ++ names') st' where
  slots := by simpa [slotsOf] using h.slots.append h'.slots
  labelIds := by simpa [labelIdsOf] using h.labelIds.append h'.labelIds
  names := by simp [h'.names, h.names]
  nodup := h'.nodup ∘ h.nodup
  blocks := by
    intro body hbody
    rcases List.mem_append.mp hbody with hb | hb
    · exact h.blocks body hb
    · exact h'.blocks body hb

/-- A statement that defines nothing itself, around its parts. -/
lemma around {s : Stmt Nat} (h : Numbered st subs names st') (hslot : s.slot? = none)
    (hlabel : s.labelId? = none) (hblock : ∀ body, s ≠ .block body) :
    Numbered st (s :: subs) names st' where
  slots := by simpa [slotsOf, List.filterMap_cons, hslot] using h.slots
  labelIds := by simpa [labelIdsOf, List.filterMap_cons, hlabel] using h.labelIds
  names := h.names
  nodup := h.nodup
  blocks := by
    intro body hbody
    rcases List.mem_cons.mp hbody with hb | hb
    · exact absurd hb.symm (hblock body)
    · exact h.blocks body hb

/-- A statement without parts that defines nothing. -/
lemma leaf {s : Stmt Nat} (hslot : s.slot? = none) (hlabel : s.labelId? = none)
    (hblock : ∀ body, s ≠ .block body) : Numbered st [s] [] st :=
  nil.around hslot hlabel hblock

/-- A block, whose names are a scope of their own. -/
lemma block {body : List (Stmt Nat)} {st₁ : DefState}
    (h : Numbered { st with names := [] } (Stmt.allSubs body) (body.flatMap Stmt.scopeNames) st₁) :
    Numbered st (.block body :: Stmt.allSubs body) [] { st₁ with names := st.names } where
  slots := by simpa [slotsOf, List.filterMap_cons, Stmt.slot?] using h.slots
  labelIds := by simpa [labelIdsOf, List.filterMap_cons, Stmt.labelId?] using h.labelIds
  names := rfl
  nodup := id
  blocks := by
    intro body' hbody
    rcases List.mem_cons.mp hbody with hb | hb
    · obtain rfl := Stmt.block.inj hb
      have := h.nodup List.nodup_nil
      rw [h.names, List.append_nil] at this
      exact List.nodup_reverse.mp this
    · exact h.blocks body' hb

end Numbered

lemma numbered_varDecl {st st' : DefState} {n name : Node} {type : VarType} {init : Option Root}
    {u : Unit} {s' : Stmt Nat} (h : defStmt st (.varDecl n type name init u) = .ok (s', st')) :
    s'.erase = .varDecl n type name init () ∧ Numbered st s'.subs s'.scopeNames st' := by
  simp only [defStmt] at h
  split_ifs at h with hdup
  · simp [Diag.bind_eq_ok] at h
  · obtain ⟨rfl, rfl⟩ := Prod.mk.inj (Diag.ok_inj.mp h)
    refine ⟨rfl, .single, .nil, rfl, fun hnodup => ?_, ?_⟩
    · exact List.nodup_cons.mpr ⟨by simpa using hdup, hnodup⟩
    · simp [BlocksDistinct, Stmt.subs]

lemma numbered_label {st st' : DefState} {name : Node} {u : Unit} {s' : Stmt Nat}
    (h : defStmt st (.label name u) = .ok (s', st')) :
    s'.erase = .label name () ∧ Numbered st s'.subs s'.scopeNames st' := by
  simp only [defStmt] at h
  split_ifs at h with hdup
  · simp [Diag.bind_eq_ok] at h
  · obtain ⟨rfl, rfl⟩ := Prod.mk.inj (Diag.ok_inj.mp h)
    refine ⟨rfl, .nil, .single, rfl, fun hnodup => ?_, ?_⟩
    · exact List.nodup_cons.mpr ⟨by simpa using hdup, hnodup⟩
    · simp [BlocksDistinct, Stmt.subs]

mutual

/-- What the definition pass establishes for a statement. -/
theorem numbered_defStmt {st st' : DefState} {s' : Stmt Nat} : ∀ s : Stmt Unit,
    defStmt st s = .ok (s', st') → s'.erase = s ∧ Numbered st s'.subs s'.scopeNames st'
  | .semi, h | .assign .., h | .subAssign .., h | .exprStmt .., h | .ret .., h | .stateChg .., h
  | .jump .., h => by
    obtain ⟨rfl, rfl⟩ := Prod.mk.inj (Diag.ok_inj.mp h)
    exact ⟨rfl, .leaf rfl rfl nofun⟩
  | .varDecl .., h => numbered_varDecl h
  | .label .., h => numbered_label h
  | .ifElse n cond s t, h => by
    obtain ⟨⟨s₁, st₁⟩, hs, h⟩ := Diag.bind_eq_ok.mp h
    obtain ⟨⟨t₁, st₂⟩, ht, h⟩ := Diag.bind_eq_ok.mp h
    obtain ⟨rfl, rfl⟩ := Prod.mk.inj (Diag.ok_inj.mp h)
    obtain ⟨es, ns⟩ := numbered_defStmt s hs
    obtain ⟨et, nt⟩ := numbered_defStmt t ht
    exact ⟨by rw [Stmt.erase, es, et], (ns.seq nt).around rfl rfl nofun⟩
  | .whileLoop _ _ s, h | .doWhile _ _ s, h | .forLoop _ _ _ _ s, h => by
    obtain ⟨⟨s₁, st₁⟩, hs, h⟩ := Diag.bind_eq_ok.mp h
    obtain ⟨rfl, rfl⟩ := Prod.mk.inj (Diag.ok_inj.mp h)
    obtain ⟨es, ns⟩ := numbered_defStmt s hs
    exact ⟨by rw [Stmt.erase, es], ns.around rfl rfl nofun⟩
  | .block body, h => by
    obtain ⟨⟨body₁, st₁⟩, hb, h⟩ := Diag.bind_eq_ok.mp h
    obtain ⟨rfl, rfl⟩ := Prod.mk.inj (Diag.ok_inj.mp h)
    obtain ⟨eb, nb⟩ := numbered_defStmts body hb
    exact ⟨by rw [Stmt.erase, eb], .block nb⟩

/-- What the definition pass establishes for the statements of a block. -/
theorem numbered_defStmts {st st' : DefState} {ss' : List (Stmt Nat)} : ∀ ss : List (Stmt Unit),
    defStmts st ss = .ok (ss', st') → Stmt.eraseAll ss' = ss ∧
      Numbered st (Stmt.allSubs ss') (ss'.flatMap Stmt.scopeNames) st'
  | [], h => by
    obtain ⟨rfl, rfl⟩ := Prod.mk.inj (Diag.ok_inj.mp h)
    exact ⟨rfl, .nil⟩
  | s :: ss, h => by
    obtain ⟨⟨s₁, st₁⟩, hs, h⟩ := Diag.bind_eq_ok.mp h
    obtain ⟨⟨ss₁, st₂⟩, hss, h⟩ := Diag.bind_eq_ok.mp h
    obtain ⟨rfl, rfl⟩ := Prod.mk.inj (Diag.ok_inj.mp h)
    obtain ⟨es, ns⟩ := numbered_defStmt s hs
    obtain ⟨ess, nss⟩ := numbered_defStmts ss hss
    exact ⟨by rw [Stmt.eraseAll, es, ess], ns.seq nss⟩

end

/-! ## Functions and events -/

/-- What the definition pass establishes for the parameters and the body of a function or an
event that has `varCount` slots. -/
structure BodyNumbered (params : List Param) (body : List (Stmt Nat)) (varCount : Nat) : Prop where
  paramNames : (params.map fun p => p.name.text).Nodup
  slots : Consecutive params.length (slotsOf (Stmt.allSubs body)) varCount
  labelIds : (labelIdsOf (Stmt.allSubs body)).Nodup
  names : (body.flatMap Stmt.scopeNames).Nodup
  blocks : BlocksDistinct (Stmt.allSubs body)

lemma defParams_eq_ok {params : List Param} {names names' : List String}
    (h : defParams names params = .ok names') :
    names' = names ++ params.map (fun p => p.name.text) ∧ (names.Nodup → names'.Nodup) := by
  induction params generalizing names with
  | nil =>
    obtain rfl := Diag.ok_inj.mp h
    exact ⟨by simp, id⟩
  | cons p params ih =>
    rw [defParams] at h
    split_ifs at h with hdup
    · simp [Diag.bind_eq_ok] at h
    · obtain ⟨rfl, hnodup⟩ := ih h
      refine ⟨by simp, fun hn => hnodup ?_⟩
      refine List.nodup_append.mpr ⟨hn, List.nodup_singleton _, ?_⟩
      rintro x hx y hy rfl
      rw [List.mem_singleton.mp hy] at hx
      exact hdup (by simpa using hx)

lemma defBody_eq_ok {k : Nat} {params : List Param} {body : List (Stmt Unit)}
    {body' : List (Stmt Nat)} {st : DefState} (h : defBody k params body = .ok (body', st)) :
    Stmt.eraseAll body' = body ∧ BodyNumbered params body' st.varIndex := by
  obtain ⟨names, hparams, hbody⟩ := Diag.bind_eq_ok.mp h
  obtain ⟨rfl, hnodup⟩ := defParams_eq_ok hparams
  obtain ⟨herase, hnum⟩ := numbered_defStmts body hbody
  have hnames := hnum.nodup List.nodup_nil
  rw [hnum.names, List.append_nil] at hnames
  refine ⟨herase, ?_, ?_, hnum.labelIds.nodup, List.nodup_reverse.mp hnames, hnum.blocks⟩
  · simpa using hnodup List.nodup_nil
  · simpa using hnum.slots

/-- The event exists, with parameters of the types the handler declares. -/
def EventDef.Supported {A : Type} (e : EventDef A) : Prop :=
  (getEventByName e.name.text).isSome = true ∧
    hasEventBySig e.name.text (e.params.map Param.type) = true

lemma checkEvt_eq_ok {e : EventDef Unit} {u : Unit} (h : checkEvt e = .ok u) : e.Supported := by
  unfold checkEvt at h
  split at h
  · simp at h
  · rename_i sig hsig
    exact ⟨by simp [hsig], by simpa using h⟩

/-- The event handler without the numbers. -/
def EventDef.erase (e : EventDef Nat) : EventDef Unit :=
  ⟨e.name, e.params, Stmt.eraseAll e.body, ()⟩

/-- What the definition pass establishes for the events of a state. -/
structure EventsNumbered (names : List String) (events : List (EventDef Nat)) : Prop where
  bodies : ∀ e ∈ events, BodyNumbered e.params e.body e.varCount
  supported : ∀ e ∈ events, e.Supported
  names : ∀ e ∈ events, e.name.text ++ "()" ∉ names
  nodup : (events.map fun e => e.name.text).Nodup

lemma defEvents_eq_ok {k k' : Nat} {names : List String} {events : List (EventDef Unit)}
    {events' : List (EventDef Nat)} (h : defEvents k names events = .ok (events', k')) :
    events'.map EventDef.erase = events ∧ EventsNumbered names events' := by
  induction events generalizing k names events' with
  | nil =>
    obtain ⟨rfl, rfl⟩ := Prod.mk.inj (Diag.ok_inj.mp h)
    exact ⟨rfl, by simp, by simp, by simp, by simp⟩
  | cons e events ih =>
    obtain ⟨_, hdup, h⟩ := Diag.bind_eq_ok.mp h
    obtain ⟨⟨body, st⟩, hbody, h⟩ := Diag.bind_eq_ok.mp h
    obtain ⟨_, hevt, h⟩ := Diag.bind_eq_ok.mp h
    obtain ⟨⟨es, k₁⟩, hes, h⟩ := Diag.bind_eq_ok.mp h
    obtain ⟨rfl, rfl⟩ := Prod.mk.inj (Diag.ok_inj.mp h)
    obtain ⟨herase, hnum⟩ := defBody_eq_ok hbody
    obtain ⟨rfl, hrest⟩ := ih hes
    have hnew : e.name.text ++ "()" ∉ names := by simpa using hdup
    refine ⟨?_, ?_, ?_, ?_, ?_⟩
    · simp [EventDef.erase, herase]
    · simpa using ⟨hnum, hrest.bodies⟩
    · simpa using ⟨checkEvt_eq_ok hevt, hrest.supported⟩
    · rintro e' he'
      rcases List.mem_cons.mp he' with rfl | he'
      · exact hnew
      · exact fun hmem => hrest.names e' he' (List.mem_cons_of_mem _ hmem)
    · refine List.nodup_cons.mpr ⟨fun hmem => ?_, hrest.nodup⟩
      obtain ⟨e', he', heq⟩ := List.mem_map.mp hmem
      exact hrest.names e' he' (by simp [heq])

/-! ## Scripts -/

/-- The name a definition at the top of the script defines. -/
def GlobalStmt.defName {A : Type} : GlobalStmt A → String
  | .varDecl _ _ name _ _ => name.text
  | .funcDef f => f.name.text ++ "()"
  | .stateDef s => s.name.text ++ "(*)"

/-- The slot of a global variable. -/
def GlobalStmt.slot? : GlobalStmt Nat → Option Nat
  | .varDecl _ _ _ _ slot => some slot
  | _ => none

/-- What the definition pass establishes for the body of a function or the events of a state. -/
def GlobalStmt.BodiesNumbered : GlobalStmt Nat → Prop
  | .varDecl .. => True
  | .funcDef f => BodyNumbered f.params f.body f.varCount
  | .stateDef s => EventsNumbered [] s.events

/-- The definition without the numbers. -/
def GlobalStmt.erase : GlobalStmt Nat → GlobalStmt Unit
  | .varDecl n type name init _ => .varDecl n type name init ()
  | .funcDef f => .funcDef ⟨f.returnType, f.name, f.params, Stmt.eraseAll f.body, ()⟩
  | .stateDef s => .stateDef ⟨s.name, s.events.map EventDef.erase⟩

lemma GlobalStmt.parsed_erase (g : GlobalStmt Nat) : g.erase.parsed = g.parsed := by
  cases g with
  | varDecl => rfl
  | funcDef f => simp only [GlobalStmt.erase, GlobalStmt.parsed, Stmt.allParsed_eraseAll]
  | stateDef s =>
    simp only [GlobalStmt.erase, GlobalStmt.parsed, List.all_map, Function.comp_def,
      EventDef.erase, Stmt.allParsed_eraseAll]

/-- What the definition pass establishes for a script, between two states. -/
structure GlobalsNumbered (st : GlobalDefState) (script : Script Nat) (st' : GlobalDefState) :
    Prop where
  slots : Consecutive st.varIndex (script.filterMap GlobalStmt.slot?) st'.varIndex
  names : st'.names = (script.map GlobalStmt.defName).reverse ++ st.names
  nodup : st.names.Nodup → st'.names.Nodup
  bodies : ∀ g ∈ script, g.BodiesNumbered

lemma define_eq_ok {st st' : GlobalDefState} {place name : String}
    (h : st.define place name = .ok st') :
    name ∉ st.names ∧ st' = { st with names := name :: st.names } := by
  unfold GlobalDefState.define at h
  split_ifs at h with hdup
  · simp [Diag.bind_eq_ok] at h
  · exact ⟨by simpa using hdup, (Diag.ok_inj.mp h).symm⟩

lemma defGlobal_eq_ok {st st' : GlobalDefState} {g : GlobalStmt Unit} {g' : GlobalStmt Nat}
    (h : defGlobal st g = .ok (g', st')) : g'.erase = g ∧ GlobalsNumbered st [g'] st' := by
  cases g with
  | varDecl n type name init u =>
    rw [defGlobal] at h
    split_ifs at h with hdup
    · simp [Diag.bind_eq_ok] at h
    · obtain ⟨rfl, rfl⟩ := Prod.mk.inj (Diag.ok_inj.mp h)
      refine ⟨rfl, .single, rfl, fun hnodup => ?_, by simp [GlobalStmt.BodiesNumbered]⟩
      exact List.nodup_cons.mpr ⟨by simpa using hdup, hnodup⟩
  | funcDef f =>
    obtain ⟨st₁, hst₁, h⟩ := Diag.bind_eq_ok.mp h
    obtain ⟨⟨body, st₂⟩, hbody, h⟩ := Diag.bind_eq_ok.mp h
    obtain ⟨rfl, rfl⟩ := Prod.mk.inj (Diag.ok_inj.mp h)
    obtain ⟨hnew, rfl⟩ := define_eq_ok hst₁
    obtain ⟨herase, hnum⟩ := defBody_eq_ok hbody
    refine ⟨by simp [GlobalStmt.erase, herase], .nil, rfl, fun hnodup => ?_, ?_⟩
    · exact List.nodup_cons.mpr ⟨hnew, hnodup⟩
    · simpa [GlobalStmt.BodiesNumbered] using hnum
  | stateDef s =>
    obtain ⟨_, -, h⟩ := Diag.bind_eq_ok.mp h
    obtain ⟨st₁, hst₁, h⟩ := Diag.bind_eq_ok.mp h
    obtain ⟨⟨events, k⟩, hevents, h⟩ := Diag.bind_eq_ok.mp h
    obtain ⟨rfl, rfl⟩ := Prod.mk.inj (Diag.ok_inj.mp h)
    obtain ⟨hnew, rfl⟩ := define_eq_ok hst₁
    obtain ⟨herase, hnum⟩ := defEvents_eq_ok hevents
    refine ⟨by simp [GlobalStmt.erase, herase], .nil, rfl, fun hnodup => ?_, ?_⟩
    · exact List.nodup_cons.mpr ⟨hnew, hnodup⟩
    · simpa [GlobalStmt.BodiesNumbered] using hnum

lemma defGlobals_eq_ok {st st' : GlobalDefState} {script : Script Unit} {numbered : Script Nat}
    (h : defGlobals st script = .ok (numbered, st')) :
    numbered.map GlobalStmt.erase = script ∧ GlobalsNumbered st numbered st' := by
  induction script generalizing st numbered with
  | nil =>
    obtain ⟨rfl, rfl⟩ := Prod.mk.inj (Diag.ok_inj.mp h)
    exact ⟨rfl, .nil, rfl, id, by simp⟩
  | cons g gs ih =>
    obtain ⟨⟨g₁, st₁⟩, hg, h⟩ := Diag.bind_eq_ok.mp h
    obtain ⟨⟨gs₁, st₂⟩, hgs, h⟩ := Diag.bind_eq_ok.mp h
    obtain ⟨rfl, rfl⟩ := Prod.mk.inj (Diag.ok_inj.mp h)
    obtain ⟨herase, hnum⟩ := defGlobal_eq_ok hg
    obtain ⟨herases, hnums⟩ := ih hgs
    refine ⟨by simp [herase, herases], ?_, ?_, hnums.nodup ∘ hnum.nodup, ?_⟩
    · have := hnum.slots.append hnums.slots
      rwa [← List.filterMap_append] at this
    · rw [hnums.names, hnum.names]
      simp
    · intro g hg
      rcases List.mem_cons.mp hg with rfl | hg
      · exact hnum.bodies g List.mem_cons_self
      · exact hnums.bodies g hg

/-- What the definition pass establishes for a script. -/
structure ScriptNumbered (b : Builtins) (script : Script Unit) (numbered : Script Nat) :
    Prop where
  erase : numbered.map GlobalStmt.erase = script
  slots : Consecutive 0 (numbered.filterMap GlobalStmt.slot?) (globalSyms numbered).length
  nodup : (b.names ++ numbered.map GlobalStmt.defName).Nodup
  functions : ∀ f ∈ functionsOf numbered, BodyNumbered f.params f.body f.varCount
  states : ∀ s ∈ statesOf numbered, EventsNumbered [] s.events

lemma mem_functionsOf {A : Type} {script : Script A} {f : FuncDef A} :
    f ∈ functionsOf script ↔ .funcDef f ∈ script := by
  simp only [functionsOf, List.mem_filterMap]
  constructor
  · rintro ⟨g, hg, h⟩
    cases g with
    | funcDef f' =>
      obtain rfl := Option.some.inj h
      exact hg
    | _ => cases h
  · exact fun h => ⟨_, h, rfl⟩

lemma mem_statesOf {A : Type} {script : Script A} {s : StateDef A} :
    s ∈ statesOf script ↔ .stateDef s ∈ script := by
  simp only [statesOf, List.mem_filterMap]
  constructor
  · rintro ⟨g, hg, h⟩
    cases g with
    | stateDef s' =>
      obtain rfl := Option.some.inj h
      exact hg
    | _ => cases h
  · exact fun h => ⟨_, h, rfl⟩

lemma map_scopeIndex_globalSyms (script : Script Nat) :
    (globalSyms script).map VarSym.scopeIndex =
      (script.filterMap GlobalStmt.slot?).map fun i : Nat => (i : Int) := by
  induction script with
  | nil => rfl
  | cons g gs ih =>
    cases g <;> simpa [globalSyms, List.filterMap_cons, GlobalStmt.slot?] using ih

theorem scriptNumbered {b : Builtins} {script : Script Unit} {numbered : Script Nat}
    (h : defScript b script = .ok numbered) : ScriptNumbered b script numbered := by
  obtain ⟨⟨numbered', st⟩, hdef, h⟩ := Diag.bind_eq_ok.mp h
  obtain rfl := Diag.ok_inj.mp h
  obtain ⟨herase, hnum⟩ := defGlobals_eq_ok hdef
  have hlen : st.varIndex = (globalSyms numbered').length := by
    have h₁ := congrArg List.length hnum.slots.2
    have h₂ := congrArg List.length (map_scopeIndex_globalSyms numbered')
    simp only [List.length_map, List.length_range'] at h₁ h₂
    omega
  refine ⟨herase, hlen ▸ hnum.slots, ?_, fun f hf => ?_, fun s hs => ?_⟩
  · have := hnum.nodup b.nodup
    rw [hnum.names] at this
    exact (List.perm_append_comm.nodup_iff.mp
      ((List.reverse_perm _).append_right _ |>.nodup_iff.mp this))
  · exact hnum.bodies _ (mem_functionsOf.mp hf)
  · exact hnum.bodies _ (mem_statesOf.mp hs)

end Halcyon.Joke
