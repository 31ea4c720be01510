import ChatMarkup.CommandLine.Script

/-!
# What Scripts Do

Facts about scripts that do not depend on what is read and written.

What a script does when it is performed is a list of actions. `Uses` bounds that
list in advance: it says of the script, and not of any of its performances, what
it may do at most. It is kept when scripts are put together, and so is what a
performance of the parts has shown.

A run can fail in many places, and files that are read may be the file that is
written under another name. Neither can do harm as long as whatever changes the
world comes last. That too is a property of the script, `ChangesLast`, and it
says that nothing comes of a script that fails, on whatever files it is
performed.

## Main definitions

* `Action`: Something that a script does.
* `Script.actions`: What a script does on the way, in order.
* `Script.Uses`: What a script does at most.
* `Script.ChangesLast`: Nothing is changed before the script is sure to succeed.

## Theorems

* `perform_andThen`, `actions_andThen`: One script performed behind another.
* `Uses.of_mem_actions`: The bound on what is done holds.
* `ChangesLast.unchanged`: A script that fails has changed nothing.
-/

namespace ChatMarkup.CommandLine

/-- Something that a script does. -/
inductive Action
  /-- It asks whether there is a file. -/
  | askFile (path : Text)
  /-- It asks for the content of a file. -/
  | readFile (path : Text)
  /-- It reads the standard input. -/
  | readInput
  /-- It asks for a file to be written. -/
  | writeFile (path : Text)
  /-- It prints. -/
  | print
  deriving DecidableEq, Repr

/-- Whether the action can change the world. -/
def Action.Changes : Action → Prop
  | askFile _ | readFile _ | readInput => False
  | writeFile _ | print => True

namespace Script

variable {ε α β : Type} {standardInput : Except SystemError ByteArray}

/-- What the script does when it is performed, in order. -/
def actions (standardInput : Except SystemError ByteArray) : Script α → World → List Action
  | finish _, _ => []
  | askFile path next, world =>
    .askFile path :: actions standardInput (next (world.files.isFile path)) world
  | readFile path next, world =>
    .readFile path :: actions standardInput (next (world.files.read path)) world
  | readInput next, world => .readInput :: actions standardInput (next standardInput) world
  | writeFile path content next, world =>
    .writeFile path ::
      match world.files.write path content with
      | .ok files => actions standardInput (next (.ok ())) { world with files := files }
      | .error cause => actions standardInput (next (.error cause)) world
  | print text next, world =>
    .print :: actions standardInput next { world with printed := world.printed ++ text }

/-- Whatever is read, the script does nothing that is not allowed. -/
def Uses (allowed : Action → Prop) : Script α → Prop
  | finish _ => True
  | askFile path next => allowed (.askFile path) ∧ ∀ found, (next found).Uses allowed
  | readFile path next => allowed (.readFile path) ∧ ∀ found, (next found).Uses allowed
  | readInput next => allowed .readInput ∧ ∀ found, (next found).Uses allowed
  | writeFile path _ next => allowed (.writeFile path) ∧ ∀ written, (next written).Uses allowed
  | print _ next => allowed .print ∧ next.Uses allowed

/-! ### One script behind another -/

/-- The second script goes on with the result of the first, in the world that the
    first has left. -/
theorem perform_andThen (script : Script (Except ε α)) (more : α → Script (Except ε β))
    (world : World) :
    (script.andThen more).perform standardInput world =
      (follow more (script.perform standardInput world).1).perform standardInput
        (script.perform standardInput world).2 := by
  induction script generalizing world with
  | finish result => rfl
  | askFile path next ih => exact ih _ world
  | readFile path next ih => exact ih _ world
  | readInput next ih => exact ih _ world
  | writeFile path content next ih =>
      rw [andThen, perform, perform]
      cases world.files.write path content with
      | ok files => exact ih _ _
      | error cause => exact ih _ world
  | print text next ih => exact ih _

theorem actions_andThen (script : Script (Except ε α)) (more : α → Script (Except ε β))
    (world : World) :
    (script.andThen more).actions standardInput world =
      script.actions standardInput world ++
        (follow more (script.perform standardInput world).1).actions standardInput
          (script.perform standardInput world).2 := by
  induction script generalizing world with
  | finish result => rfl
  | askFile path next ih => exact congrArg (List.cons _) (ih _ world)
  | readFile path next ih => exact congrArg (List.cons _) (ih _ world)
  | readInput next ih => exact congrArg (List.cons _) (ih _ world)
  | writeFile path content next ih =>
      rw [andThen, actions, actions, perform]
      cases world.files.write path content with
      | ok files => exact congrArg (List.cons _) (ih _ _)
      | error cause => exact congrArg (List.cons _) (ih _ world)
  | print text next ih => exact congrArg (List.cons _) (ih _)

/-! ### What scripts do at most -/

variable {allowed : Action → Prop}

/-- What is allowed to both parts is enough for the whole. -/
theorem Uses.andThen {script : Script (Except ε α)} {more : α → Script (Except ε β)}
    (h : script.Uses allowed) (hmore : ∀ result, (more result).Uses allowed) :
    (script.andThen more).Uses allowed := by
  induction script with
  | finish result =>
      cases result with
      | ok result => exact hmore result
      | error cause => trivial
  | askFile path next ih => exact ⟨h.1, fun found => ih found (h.2 found)⟩
  | readFile path next ih => exact ⟨h.1, fun found => ih found (h.2 found)⟩
  | readInput next ih => exact ⟨h.1, fun found => ih found (h.2 found)⟩
  | writeFile path content next ih => exact ⟨h.1, fun written => ih written (h.2 written)⟩
  | print text next ih => exact ⟨h.1, ih h.2⟩

theorem Uses.mono {script : Script α} (h : script.Uses allowed) {more : Action → Prop}
    (hmore : ∀ action, allowed action → more action) : script.Uses more := by
  induction script with
  | finish result => trivial
  | askFile path next ih => exact ⟨hmore _ h.1, fun found => ih found (h.2 found)⟩
  | readFile path next ih => exact ⟨hmore _ h.1, fun found => ih found (h.2 found)⟩
  | readInput next ih => exact ⟨hmore _ h.1, fun found => ih found (h.2 found)⟩
  | writeFile path content next ih =>
      exact ⟨hmore _ h.1, fun written => ih written (h.2 written)⟩
  | print text next ih => exact ⟨hmore _ h.1, ih h.2⟩

/-- What is done is allowed. -/
theorem Uses.of_mem_actions {script : Script α} (h : script.Uses allowed) {world : World}
    {action : Action} (hmem : action ∈ script.actions standardInput world) : allowed action := by
  induction script generalizing world with
  | finish result => exact absurd hmem List.not_mem_nil
  | askFile path next ih | readFile path next ih | readInput next ih =>
      rcases List.mem_cons.mp hmem with rfl | hmem
      · exact h.1
      · exact ih _ (h.2 _) hmem
  | writeFile path content next ih =>
      rw [actions] at hmem
      rcases List.mem_cons.mp hmem with rfl | hmem
      · exact h.1
      · split at hmem
        · exact ih _ (h.2 _) hmem
        · exact ih _ (h.2 _) hmem
  | print text next ih =>
      rcases List.mem_cons.mp hmem with rfl | hmem
      · exact h.1
      · exact ih h.2 hmem

/-! ### Scripts that change the world last -/

/-- Writing a file or printing a text is the last thing that the script does, and
    if it works, the script succeeds. -/
inductive ChangesLast : Script (Except ε α) → Prop
  | finish (result : Except ε α) : ChangesLast (.finish result)
  | askFile (path : Text) (next : Bool → Script (Except ε α)) :
    (∀ found, ChangesLast (next found)) → ChangesLast (.askFile path next)
  | readFile (path : Text) (next : Except SystemError ByteArray → Script (Except ε α)) :
    (∀ found, ChangesLast (next found)) → ChangesLast (.readFile path next)
  | readInput (next : Except SystemError ByteArray → Script (Except ε α)) :
    (∀ found, ChangesLast (next found)) → ChangesLast (.readInput next)
  | writeFile (path : Text) (content : ByteArray)
    (next : Except SystemError Unit → Script (Except ε α)) (done : α) :
    next (.ok ()) = .finish (.ok done) →
    (∀ cause, ∃ result, next (.error cause) = .finish result) →
    ChangesLast (.writeFile path content next)
  | print (text : Text) (done : α) : ChangesLast (.print text (.finish (.ok done)))

/-- A script that changes nothing can stand in front. -/
theorem ChangesLast.andThen {script : Script (Except ε α)} {more : α → Script (Except ε β)}
    (h : script.Uses fun action => ¬ action.Changes) (hmore : ∀ result, (more result).ChangesLast) :
    (script.andThen more).ChangesLast := by
  induction script with
  | finish result =>
      cases result with
      | ok result => exact hmore result
      | error cause => exact .finish _
  | askFile path next ih => exact .askFile path _ fun found => ih found (h.2 found)
  | readFile path next ih => exact .readFile path _ fun found => ih found (h.2 found)
  | readInput next ih => exact .readInput _ fun found => ih found (h.2 found)
  | writeFile path content next => exact absurd trivial h.1
  | print text next => exact absurd trivial h.1

/-- If such a script fails, the world is as it was. -/
theorem ChangesLast.unchanged {script : Script (Except ε α)} (h : script.ChangesLast)
    {world after : World} {cause : ε}
    (hfails : script.perform standardInput world = (.error cause, after)) : after = world := by
  induction h with
  | finish result => exact (congrArg Prod.snd hfails).symm
  | askFile path next _ ih => exact ih _ hfails
  | readFile path next _ ih => exact ih _ hfails
  | readInput next _ ih => exact ih _ hfails
  | writeFile path content next done hdone hfailed =>
      rw [perform] at hfails
      split at hfails
      · -- Once the file is written the script succeeds.
        rw [hdone] at hfails
        exact absurd hfails (by simp [perform])
      · next cause _ =>
          rcases hfailed cause with ⟨result, hresult⟩
          rw [hresult] at hfails
          exact (congrArg Prod.snd hfails).symm
  | print text done => exact absurd hfails (by simp [perform])

end Script

end ChatMarkup.CommandLine
