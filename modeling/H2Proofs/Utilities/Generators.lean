import H2Proofs.Utilities.Headers

/-!
# Generators run to exhaustion

A generator consumed to its end is what it yielded and how it ended (`Drained`); every
validating stage is one loop shape, `checkEach`. Chained stages fuse into one loop
(`checkEach_checkEach`), and a loop commutes with renaming its items (`checkLoop_map`).
-/

namespace H2.Utilities

instance exceptDecidableEq {ε α : Type} [DecidableEq ε] [DecidableEq α] : DecidableEq (Except ε α)
  | .ok a, .ok b => decidable_of_iff (a = b) ⟨congrArg _, Except.ok.inj⟩
  | .error a, .error b => decidable_of_iff (a = b) ⟨congrArg _, Except.error.inj⟩
  | .ok _, .error _ => isFalse nofun
  | .error _, .ok _ => isFalse nofun

/-- A generator consumed to its end: the items it yielded, in order, and the exception it
raised after them, `none` when it returned. -/
structure Drained (α : Type) where
  yielded : List α
  raised : Option PyException

namespace Drained

/-- Iterating a list: its items, then the end. -/
def ofList {α : Type} (xs : List α) : Drained α := ⟨xs, none⟩

/-- `list(gen)`. -/
def toList {α : Type} (d : Drained α) : Except PyException (List α) :=
  match d.raised with
  | none => .ok d.yielded
  | some e => .error e

@[simp] theorem toList_ofList {α : Type} (xs : List α) : (ofList xs).toList = .ok xs := rfl

theorem toList_eq_ok {α : Type} {d : Drained α} {xs : List α} :
    d.toList = .ok xs ↔ d.raised = none ∧ d.yielded = xs := by
  rcases d with ⟨ys, _ | e⟩ <;> simp [toList]

theorem toList_eq_error {α : Type} {d : Drained α} {e : PyException} :
    d.toList = .error e ↔ d.raised = some e := by
  rcases d with ⟨ys, _ | e'⟩ <;> simp [toList]

end Drained

section Loop

variable {σ α : Type} (check : σ → α → Except PyException σ) (finish : σ → Option PyException)

/-- The loop of `for x in source: <check>; yield x` followed by `finish`, over the items and
the ending of `source`. -/
def checkLoop : σ → List α → Option PyException → Drained α
  | s, [], raised => ⟨[], raised.or (finish s)⟩
  | s, x :: xs, raised =>
    match check s x with
    | .error e => ⟨[], some e⟩
    | .ok s' =>
      let rest := checkLoop s' xs raised
      ⟨x :: rest.yielded, rest.raised⟩

/-- A validating generator over `source`: each item is re-yielded once `check` accepts it in
the loop state; an exception of `source` passes through and skips `finish`. -/
def checkEach (s : σ) (source : Drained α) : Drained α := checkLoop check finish s source.yielded source.raised

variable {check finish}

/-- A stage over a list loops over the list's items. -/
@[simp] theorem checkEach_ofList (s : σ) (xs : List α) :
    checkEach check finish s (.ofList xs) = checkLoop check finish s xs none := rfl

theorem foldlM_cons_error {s : σ} {x : α} {xs : List α} {e : PyException} (failed : check s x = .error e) :
    (x :: xs).foldlM check s = .error e := by
  simp [List.foldlM_cons, failed, bind, Except.bind]

theorem foldlM_cons_ok {s s' : σ} {x : α} {xs : List α} (passed : check s x = .ok s') :
    (x :: xs).foldlM check s = xs.foldlM check s' := by
  simp [List.foldlM_cons, passed, bind, Except.bind]

theorem foldlM_cons_eq_ok {s r : σ} {x : α} {xs : List α} :
    (x :: xs).foldlM check s = .ok r ↔ ∃ s', check s x = .ok s' ∧ xs.foldlM check s' = .ok r := by
  cases passed : check s x <;> simp [List.foldlM_cons, passed, bind, Except.bind]

theorem checkLoop_of_ok {s s' : σ} {xs : List α} (ok : xs.foldlM check s = .ok s')
    (raised : Option PyException) : checkLoop check finish s xs raised = ⟨xs, raised.or (finish s')⟩ := by
  induction xs generalizing s with
  | nil =>
    cases ok
    rfl
  | cons x xs ih =>
    cases passed : check s x with
    | error e => rw [foldlM_cons_error passed] at ok; cases ok
    | ok s₁ =>
      rw [foldlM_cons_ok passed] at ok
      simp [checkLoop, passed, ih ok]

theorem checkLoop_of_error {s : σ} {xs : List α} {e : PyException} (failed : xs.foldlM check s = .error e)
    (raised : Option PyException) :
    ∃ pre, pre <+: xs ∧ checkLoop check finish s xs raised = ⟨pre, some e⟩ := by
  induction xs generalizing s with
  | nil => cases failed
  | cons x xs ih =>
    cases passed : check s x with
    | error e' =>
      rw [foldlM_cons_error passed] at failed
      cases failed
      exact ⟨[], List.nil_prefix, by simp [checkLoop, passed]⟩
    | ok s₁ =>
      rw [foldlM_cons_ok passed] at failed
      obtain ⟨pre, isPrefix, loop⟩ := ih failed
      exact ⟨x :: pre, List.prefix_cons_inj x |>.mpr isPrefix, by simp [checkLoop, passed, loop]⟩

/-- A failed `foldlM` failed at one of the items. -/
theorem exists_check_error {s : σ} {xs : List α} {e : PyException} (failed : xs.foldlM check s = .error e) :
    ∃ x ∈ xs, ∃ s', check s' x = .error e := by
  induction xs generalizing s with
  | nil => cases failed
  | cons x xs ih =>
    cases passed : check s x with
    | error e' =>
      rw [foldlM_cons_error passed] at failed
      cases failed
      exact ⟨x, List.mem_cons_self x xs, s, passed⟩
    | ok s₁ =>
      rw [foldlM_cons_ok passed] at failed
      obtain ⟨y, mem, s', err⟩ := ih failed
      exact ⟨y, List.mem_cons_of_mem x mem, s', err⟩

/-- A stage over a source that raised before yielding re-raises at once. -/
theorem checkEach_failed (s : σ) (e : PyException) : checkEach check finish s ⟨[], some e⟩ = ⟨[], some e⟩ := rfl

theorem checkEach_of_ok {s s' : σ} {source : Drained α} (ok : source.yielded.foldlM check s = .ok s') :
    checkEach check finish s source = ⟨source.yielded, source.raised.or (finish s')⟩ :=
  checkLoop_of_ok ok source.raised

theorem checkEach_of_error (finish : σ → Option PyException) {s : σ} {source : Drained α}
    {e : PyException} (failed : source.yielded.foldlM check s = .error e) :
    ∃ pre, pre <+: source.yielded ∧ checkEach check finish s source = ⟨pre, some e⟩ :=
  checkLoop_of_error failed source.raised

/-- A stage that ends normally had a source that ended normally, and accepted all of it. -/
theorem checkEach_raised_eq_none {s : σ} {source : Drained α}
    (ended : (checkEach check finish s source).raised = none) :
    source.raised = none ∧ (checkEach check finish s source).yielded = source.yielded ∧
      ∃ s', source.yielded.foldlM check s = .ok s' ∧ finish s' = none := by
  cases fold : source.yielded.foldlM check s with
  | error e =>
    obtain ⟨pre, -, loop⟩ := checkEach_of_error finish fold
    simp [loop] at ended
  | ok s' =>
    rw [checkEach_of_ok fold] at ended ⊢
    cases h : source.raised <;> simp_all

/-- A stage yields a prefix of what its source yields. -/
theorem checkEach_yielded_prefix_of_source (s : σ) (source : Drained α) :
    (checkEach check finish s source).yielded <+: source.yielded := by
  cases fold : source.yielded.foldlM check s with
  | error e =>
    obtain ⟨pre, isPrefix, loop⟩ := checkEach_of_error finish fold
    simpa [loop] using isPrefix
  | ok s' => simp [checkEach_of_ok fold]

theorem checkLoop_yielded_eq_take (s : σ) (xs : List α) (raised : Option PyException) :
    (checkLoop check finish s xs raised).yielded = xs.take (checkLoop check finish s xs raised).yielded.length :=
  List.prefix_iff_eq_take.mp (checkEach_yielded_prefix_of_source s ⟨xs, raised⟩)

theorem checkLoop_yielded_of_ended {s : σ} {xs : List α} {raised : Option PyException}
    (ended : (checkLoop check finish s xs raised).raised = none) : (checkLoop check finish s xs raised).yielded = xs :=
  (@checkEach_raised_eq_none σ α check finish s ⟨xs, raised⟩ ended).2.1

/-- Replacing one item by another that every check treats alike changes nothing but that item
in what the loop yields, and nothing in how it ends. -/
theorem checkLoop_replace {x x' : α} (same : ∀ s, check s x' = check s x) (pre post : List α) (s : σ)
    (raised : Option PyException) :
    (checkLoop check finish s (pre ++ x' :: post) raised).raised = (checkLoop check finish s (pre ++ x :: post) raised).raised ∧
      (checkLoop check finish s (pre ++ x' :: post) raised).yielded =
        (pre ++ x' :: post).take (checkLoop check finish s (pre ++ x :: post) raised).yielded.length := by
  induction pre generalizing s with
  | nil =>
    simp only [List.nil_append, checkLoop, same]
    cases check s x with
    | error e => exact ⟨rfl, rfl⟩
    | ok s' => exact ⟨rfl, congrArg (List.cons x') (checkLoop_yielded_eq_take s' post raised)⟩
  | cons y pre ih =>
    simp only [List.cons_append, checkLoop]
    cases check s y with
    | error e => exact ⟨rfl, rfl⟩
    | ok s' =>
      obtain ⟨sameEnd, yielded⟩ := ih s'
      exact ⟨sameEnd, congrArg (List.cons y) yielded⟩

/-- A loop over a source that ended normally raises either at the first item it did not yield,
which failed its check, or, having yielded every item, in `finish`. -/
theorem checkLoop_raised_cases {s : σ} {xs : List α} {e : PyException}
    (raised : (checkLoop check finish s xs none).raised = some e) :
    (∃ x s', xs[(checkLoop check finish s xs none).yielded.length]? = some x ∧ check s' x = .error e) ∨
      ((checkLoop check finish s xs none).yielded = xs ∧ ∃ s', finish s' = some e) := by
  induction xs generalizing s with
  | nil => exact .inr ⟨rfl, s, by simpa [checkLoop] using raised⟩
  | cons x xs ih =>
    cases passed : check s x with
    | error e' =>
      simp only [checkLoop, passed, Option.some.injEq] at raised ⊢
      exact .inl ⟨x, s, by simp, raised ▸ passed⟩
    | ok s' =>
      simp only [checkLoop, passed] at raised ⊢
      rcases ih raised with ⟨y, s'', found, failed⟩ | ⟨whole, s'', ended⟩
      · exact .inl ⟨y, s'', by simpa using found, failed⟩
      · exact .inr ⟨congrArg (x :: ·) whole, s'', ended⟩

/-- Every exception a stage raises comes from its source, from `check` on one of the source's
items, or from `finish`. -/
theorem checkEach_raised_of {Q : PyException → Prop} {s : σ} {source : Drained α}
    (fromSource : ∀ e, source.raised = some e → Q e)
    (fromCheck : ∀ x ∈ source.yielded, ∀ s e, check s x = .error e → Q e)
    (fromFinish : ∀ s e, finish s = some e → Q e) :
    ∀ e, (checkEach check finish s source).raised = some e → Q e := by
  intro e raised
  cases fold : source.yielded.foldlM check s with
  | error e' =>
    obtain ⟨pre, -, loop⟩ := checkEach_of_error finish fold
    obtain ⟨x, mem, s', err⟩ := exists_check_error fold
    simp only [loop, Option.some.injEq] at raised
    exact raised ▸ fromCheck x mem s' e' err
  | ok s' =>
    rw [checkEach_of_ok fold, Option.or_eq_some] at raised
    rcases raised with source' | ⟨-, finished⟩
    · exact fromSource e source'
    · exact fromFinish s' e finished

/-- Checks that keep no loop state pass exactly when each item passes. -/
theorem foldlM_unit_eq_ok {c : α → Except PyException Unit} {xs : List α} :
    xs.foldlM (fun _ x => c x) () = .ok () ↔ ∀ x ∈ xs, c x = .ok () := by
  induction xs with
  | nil => simp [pure, Except.pure]
  | cons x xs ih =>
    cases passed : c x <;> simp [List.foldlM_cons, passed, bind, Except.bind, ih]

end Loop

section Stateless

variable {α : Type} {check : α → Except PyException Unit} {source : Drained α}

/-- A validating generator with no loop state and nothing to check at the end. -/
def checkAll (check : α → Except PyException Unit) (source : Drained α) : Drained α :=
  checkEach (fun _ x => check x) (fun _ => none) () source

theorem checkAll_of_forall (passes : ∀ x ∈ source.yielded, check x = .ok ()) : checkAll check source = source := by
  rw [checkAll, checkEach_of_ok (foldlM_unit_eq_ok.mpr passes), Option.or_none]

theorem checkAll_raised_eq_none (ended : (checkAll check source).raised = none) :
    checkAll check source = source ∧ source.raised = none ∧ ∀ x ∈ source.yielded, check x = .ok () := by
  obtain ⟨sourceEnded, -, u, fold, -⟩ := checkEach_raised_eq_none ended
  have passes := foldlM_unit_eq_ok.mp fold
  exact ⟨checkAll_of_forall passes, sourceEnded, passes⟩

end Stateless

/-! ### Chained generators, one item at a time

`list(...)` pulls one item through the whole chain before the next: each generator asks the
one below for an item, checks it, and hands it on. A chain of two stages is therefore one
loop that puts each item through both checks, the lower stage's first, and at the end runs
the lower stage's final check before the upper one's. -/

section Fusion

variable {σ τ ρ α : Type} {check₁ : σ → α → Except PyException σ} {finish₁ : σ → Option PyException}
  {check₂ : τ → α → Except PyException τ} {finish₂ : τ → Option PyException}

/-- A stateless check, then a loop's check, on one item. -/
def precheck (c : α → Except PyException Unit) (check : σ → α → Except PyException σ) (s : σ) (x : α) :
    Except PyException σ :=
  (c x).bind fun _ => check s x

/-- Two loops' checks on one item, the lower loop's first, each in its own state. -/
def pairChecks (check₁ : σ → α → Except PyException σ) (check₂ : τ → α → Except PyException τ)
    (state : σ × τ) (x : α) : Except PyException (σ × τ) :=
  (check₁ state.1 x).bind fun s => (check₂ state.2 x).map fun t => (s, t)

/-- A stage over a loop is one loop, whose state `pair s t` holds both loops' states, whose
check is the two checks in order, and whose final check is the lower one's, then the upper's. -/
theorem checkEach_checkLoop {check : ρ → α → Except PyException ρ} {finish : ρ → Option PyException}
    (pair : σ → τ → ρ) (step : ∀ s t x, check (pair s t) x = (check₁ s x).bind fun s' => (check₂ t x).map (pair s'))
    (ends : ∀ s t, finish (pair s t) = (finish₁ s).or (finish₂ t)) (s : σ) (t : τ) (xs : List α)
    (raised : Option PyException) :
    checkEach check₂ finish₂ t (checkLoop check₁ finish₁ s xs raised) = checkLoop check finish (pair s t) xs raised := by
  induction xs generalizing s t with
  | nil => simp [checkEach, checkLoop, ends, Option.or_assoc]
  | cons x xs ih =>
    cases lower : check₁ s x with
    | error e => simp [checkEach, checkLoop, step, lower, Except.bind]
    | ok s' =>
      cases upper : check₂ t x with
      | error e => simp [checkEach, checkLoop, step, lower, upper, Except.bind, Except.map]
      | ok t' =>
        have rest := ih s' t'
        simp only [checkEach] at rest
        simp [checkEach, checkLoop, step, lower, upper, Except.bind, Except.map, rest]

theorem precheck_eq_error {c : α → Except PyException Unit} {check : σ → α → Except PyException σ} {s : σ} {x : α}
    {e : PyException} (failed : precheck c check s x = .error e) : c x = .error e ∨ check s x = .error e := by
  unfold precheck at failed
  cases passed : c x <;> rw [passed] at failed
  · cases failed
    exact .inl rfl
  · exact .inr failed

theorem pairChecks_eq_error {state : σ × τ} {x : α} {e : PyException}
    (failed : pairChecks check₁ check₂ state x = .error e) : check₁ state.1 x = .error e ∨ check₂ state.2 x = .error e := by
  unfold pairChecks at failed
  cases lower : check₁ state.1 x <;> rw [lower] at failed
  · cases failed
    exact .inl rfl
  · cases upper : check₂ state.2 x <;> rw [upper] at failed
    · cases failed
      exact .inr rfl
    · cases failed

theorem precheck_eq_ok {c : α → Except PyException Unit} {check : σ → α → Except PyException σ} {s s' : σ} {x : α}
    (passed : precheck c check s x = .ok s') : check s x = .ok s' := by
  unfold precheck at passed
  cases first : c x <;> rw [first] at passed
  · cases passed
  · exact passed

theorem pairChecks_eq_ok {state state' : σ × τ} {x : α} (passed : pairChecks check₁ check₂ state x = .ok state') :
    check₁ state.1 x = .ok state'.1 ∧ check₂ state.2 x = .ok state'.2 := by
  unfold pairChecks at passed
  cases lower : check₁ state.1 x <;> rw [lower] at passed
  · cases passed
  · cases upper : check₂ state.2 x <;> rw [upper] at passed
    · cases passed
    · cases passed
      exact ⟨rfl, rfl⟩

/-- A stateless check that passes every item leaves the loop as it was. -/
theorem checkLoop_precheck {c : α → Except PyException Unit} {check : σ → α → Except PyException σ}
    {finish : σ → Option PyException} {xs : List α} (passes : ∀ x ∈ xs, c x = .ok ()) (s : σ)
    (raised : Option PyException) :
    checkLoop (precheck c check) finish s xs raised = checkLoop check finish s xs raised := by
  induction xs generalizing s with
  | nil => rfl
  | cons x xs ih =>
    have step : precheck c check s x = check s x := by rw [precheck, passes x (List.mem_cons_self x xs)]; rfl
    have rest := ih fun y mem => passes y (List.mem_cons_of_mem x mem)
    simp only [checkLoop, step, rest]

/-- A stateless check before the lower of two loops' checks comes before both. -/
@[simp] theorem pairChecks_precheck (c : α → Except PyException Unit) :
    pairChecks (precheck c check₁) check₂ = precheck c (pairChecks check₁ check₂) := by
  funext state x
  simp only [pairChecks, precheck]
  cases c x <;> rfl

theorem checkEach_checkEach (s : σ) (t : τ) (source : Drained α) :
    checkEach check₂ finish₂ t (checkEach check₁ finish₁ s source) =
      checkEach (pairChecks check₁ check₂) (fun state => (finish₁ state.1).or (finish₂ state.2)) (s, t) source :=
  checkEach_checkLoop Prod.mk (fun _ _ _ => rfl) (fun _ _ => rfl) s t source.yielded source.raised

theorem checkEach_checkAll (c : α → Except PyException Unit) (s : τ) (source : Drained α) :
    checkEach check₂ finish₂ s (checkAll c source) = checkEach (precheck c check₂) finish₂ s source :=
  @checkEach_checkLoop Unit τ τ α (fun _ x => c x) (fun _ => none) check₂ finish₂ (precheck c check₂) finish₂
    (fun _ t => t) (fun _ t x => by dsimp only [precheck]; cases c x <;> cases check₂ t x <;> rfl) (fun _ _ => rfl) () s source.yielded
    source.raised

end Fusion

/-! ### Renaming items and exceptions -/

/-- A drained generator with its items mapped by `f` and its exception by `g`. -/
def Drained.map {α β : Type} (f : α → β) (g : PyException → PyException) (d : Drained α) : Drained β :=
  ⟨d.yielded.map f, d.raised.map g⟩

/-- `list(...)` of a renamed generator. -/
theorem Drained.toList_map {α β : Type} (f : α → β) (g : PyException → PyException) (d : Drained α) :
    (d.map f g).toList = (d.toList.map (List.map f)).mapError g := by
  rcases d with ⟨ys, _ | e⟩ <;> rfl

section Simulation

variable {σ τ α β : Type} {check : σ → α → Except PyException σ} {finish : σ → Option PyException}
  {check' : τ → β → Except PyException τ} {finish' : τ → Option PyException}
  {f : α → β} {g : PyException → PyException} {e : σ → τ} {Inv : σ → Prop} {P : α → Prop}

/-- A loop over renamed items, from a renamed state, runs as the original one does, when every
check on an item satisfying `P` is the renamed check and keeps the state invariant `Inv`. -/
theorem checkLoop_map
    (step : ∀ s x, Inv s → P x → check' (e s) (f x) = ((check s x).map e).mapError g)
    (keeps : ∀ s x s', Inv s → P x → check s x = .ok s' → Inv s')
    (ends : ∀ s, Inv s → finish' (e s) = (finish s).map g)
    {xs : List α} (items : ∀ x ∈ xs, P x) {s : σ} (inv : Inv s) (raised : Option PyException) :
    checkLoop check' finish' (e s) (xs.map f) (raised.map g) = (checkLoop check finish s xs raised).map f g := by
  induction xs generalizing s with
  | nil => cases raised <;> simp [checkLoop, Drained.map, ends s inv]
  | cons x xs ih =>
    have renamed := step s x inv (items x (List.mem_cons_self x xs))
    cases checked : check s x with
    | error err => simp [checkLoop, renamed, checked, Except.map, Except.mapError, Drained.map]
    | ok s' =>
      have next := ih (fun y mem => items y (List.mem_cons_of_mem x mem))
        (keeps s x s' inv (items x (List.mem_cons_self x xs)) checked)
      simp only [Drained.map] at next
      simp [checkLoop, renamed, checked, Except.map, Except.mapError, Drained.map, next]

theorem checkEach_map
    (step : ∀ s x, Inv s → P x → check' (e s) (f x) = ((check s x).map e).mapError g)
    (keeps : ∀ s x s', Inv s → P x → check s x = .ok s' → Inv s')
    (ends : ∀ s, Inv s → finish' (e s) = (finish s).map g)
    {d : Drained α} (items : ∀ x ∈ d.yielded, P x) {s : σ} (inv : Inv s) :
    checkEach check' finish' (e s) (d.map f g) = (checkEach check finish s d).map f g :=
  checkLoop_map step keeps ends items inv d.raised

/-- A stateless stage commutes with renaming when its check does, on the items it sees. -/
theorem checkAll_map {c : α → Except PyException Unit} {c' : β → Except PyException Unit}
    (step : ∀ x, P x → c' (f x) = (c x).mapError g) {d : Drained α} (items : ∀ x ∈ d.yielded, P x) :
    checkAll c' (d.map f g) = (checkAll c d).map f g :=
  @checkEach_map Unit Unit α β (fun _ x => c x) (fun _ => none) (fun _ x => c' x) (fun _ => none) f g id
    (fun _ => True) P (fun _ x _ px => by dsimp only; rw [step x px]; cases c x <;> rfl)
    (fun _ _ _ _ _ _ => trivial) (fun _ _ => rfl) d items () trivial

end Simulation

end H2.Utilities
