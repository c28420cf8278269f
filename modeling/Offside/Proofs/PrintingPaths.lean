import Mathlib.Logic.ExistsUnique
import Offside.Proofs.Machine.Chain
import Offside.Proofs.Machine.Holding
import Offside.Proofs.Machine.Operation
import Offside.Proofs.Machine.OwnOutput
import Offside.Proofs.Output

/-!
# Three ways to print

A value is rendered to a text, printed to the output of the session, or printed to an output
of its own. All three follow the chain of the value in the same way, and write nothing but
the text at its end.
-/

namespace Offside

open Machine Point Text

/-- What printing to an output of its own answers when the chain has come to a result: the
beginning of the text that there is room for, and an error if that is not all of it. -/
def Answer.ofChain : Option Nat → Except EvalError String → Except EvalError Answer
  | none, result => result.map Answer.text
  | some capacity, .ok rendered =>
      .ok (.printed (decodeCut (rendered.toUTF8.extract 0 (min capacity rendered.toUTF8.size)))
        (if rendered.toUTF8.size ≤ capacity then none else some .outputFailed))
  | some _, .error error => .ok (.printed "" (some error))

/-- The operations that print a subject. -/
inductive Operation.Prints (subject : Handle) : Operation → Prop where
  | print : Prints subject (.print subject)
  | render : Prints subject (.render subject)
  | printTo (capacity : Option Nat) : Prints subject (.printTo capacity subject)

theorem Operation.Prints.exists_started {operation : Operation} {subject : Handle}
    (prints : operation.Prints subject) (machine : Machine) :
    ∃ own purpose frames goal, (operation.awaiting machine).step = .running
      ((machine.withOwn own).toRender purpose subject (.release [subject] :: frames) goal) := by
  cases prints with
  | print => exact ⟨machine.own, .output, machine.stack, machine.goal, rfl⟩
  | render => exact ⟨machine.own, .value, machine.stack, machine.goal, rfl⟩
  | printTo capacity => exact ⟨.ofLimit capacity, .own, [], .printed capacity, rfl⟩

namespace Machine

variable {machine last : Machine} {subject : Handle} {held : List Handle}
  {result : Except EvalError String} {base : List Frame}

theorem Reaches.leads {start last : Machine} (reaches : Reaches base start last) :
    Leads (.inside start) (.inside last) := by
  induction reaches with
  | refl => exact .refl
  | step _ stepped _ ih => exact (leads_of_step stepped).trans ih

/-! ## What is left of a chain -/

section Reached

variable {output : Output} {text : String} {purpose : Purpose} {goal : Goal}
  (reached : Leads (.between (.start output))
    (.inside (last.chainEnd purpose (.ok text) (holders held ++ base) goal)))
include reached

/-- At the end of a chain that a session comes to, no owner that is still to be released or in
a field refers to the address for the text. -/
theorem unowned_nextAddress : last.store.nextAddress ∉ Handle.owned held ∧
    last.store.nextAddress ∉ Handle.owned last.store.fieldHandles := by
  let ended := last.chainEnd purpose (.ok text) (holders held ++ base) goal
  have sound := (Leads.sound reached (sound_start output)).counted
  have frames : (holders held ++ base).flatMap Frame.handles =
      held ++ base.flatMap Frame.handles := by
    rw [List.flatMap_append, flatMap_handles_holders]
  cases purpose with
  | value =>
      -- The text is there already, and its owner under control is the only one.
      have counts : (last.store.allocate (.text text)).Counts (Handle.owned ended.roots) :=
        sound.counts
      have roots : ended.roots = last.scope.handles ++ .owner last.store.nextAddress ::
          (held ++ (base.flatMap Frame.handles ++ goal.handles)) := by
        show _ ++ [_] ++ (holders held ++ base).flatMap Frame.handles ++ _ = _
        rw [frames]
        simp only [List.append_assoc]
        rfl
      rw [roots, Handle.owned_append, Handle.owned_owner, Handle.owned_append] at counts
      obtain ⟨_, unlisted, unowned⟩ := counts.not_mem_of_allocate
      rw [List.mem_append, not_or] at unlisted
      exact ⟨unlisted.1, unowned⟩
  | output | own =>
      obtain ⟨sameStore, sameStack⟩ : ended.store = last.store ∧
          ended.stack = holders held ++ base :=
        store_chainEnd_of_ne_value (by intro same; cases same) last text _ goal
      have vacant : ¬(ended.store.object? last.store.nextAddress).isSome := by
        rw [sameStore]
        exact fun found => Nat.lt_irrefl _ (Holding.lt_nextAddress_of_object? found)
      obtain ⟨unheld, unowned⟩ := not_or.mp (mt sound.isSome_iff.mpr vacant)
      change _ ∉ ended.store.fieldHandles at unowned
      rw [sameStore] at unowned
      rw [Store.mem_owned_iff, Store.mem_owned_iff]
      refine ⟨fun member => unheld ?_, unowned⟩
      refine List.mem_append_left _ (List.mem_append_right _ ?_)
      rw [sameStack, frames]
      exact List.mem_append_left _ member

/-- So the text could as well be made when everything else is released. -/
theorem release_allocate_text : (last.store.allocate (.text text)).release held =
    (last.store.release held).allocate (.text text) := by
  obtain ⟨unlisted, unowned⟩ := unowned_nextAddress reached
  rw [Store.release, Store.dropOwners_allocate unlisted unowned, Store.release]

end Reached

namespace Chain

section Operations

variable (chain : Chain machine subject held result last)
include chain

theorem returns_render :
    Returns (.release [subject] :: machine.stack) ((Operation.render subject).awaiting machine)
      ((last.chainEnd .value result (.release [subject] :: machine.stack) machine.goal).release
        held) := by
  have returns := chain.returns .value (.release [subject] :: machine.stack) machine.goal
  have goesOn := (Operation.render subject).not_returnedTo_awaiting machine
  exact ⟨.step goesOn rfl returns.reaches, returns.returned⟩

theorem returns_print :
    Returns (.release [subject] :: machine.stack) ((Operation.print subject).awaiting machine)
      ((last.chainEnd .output result (.release [subject] :: machine.stack) machine.goal).release
        held) := by
  have returns := chain.returns .output (.release [subject] :: machine.stack) machine.goal
  have goesOn := (Operation.print subject).not_returnedTo_awaiting machine
  exact ⟨.step goesOn rfl returns.reaches, returns.returned⟩

omit chain in
theorem ignoresOwn_asked (machine : Machine) (receiver : Address) (method : Method) :
    (machine.asked receiver method).IgnoresOwn :=
  ⟨rfl, List.forall_mem_nil _⟩

/-- The same chain is followed whatever an output of its own is. -/
theorem withOwn (own : Output) :
    Chain (machine.withOwn own) subject held result (last.withOwn own) := by
  induction chain with
  | text rendered => exact .text rendered
  | dangling rendered => exact .dangling rendered
  | exhausted renders none => exact .exhausted renders none
  | failed renders some returns controlled =>
      exact .failed renders some (returns.withOwn (ignoresOwn_asked ..) own) controlled
  | link renders some returns controlled _ ih =>
      exact .link renders some (returns.withOwn (ignoresOwn_asked ..) own) controlled ih

/-- All ways to print a subject go down its chain. -/
theorem exists_leads {operation : Operation} (prints : operation.Prints subject) :
    ∃ own purpose frames goal, Leads (.inside (operation.awaiting machine))
      (.inside ((last.withOwn own).chainEnd purpose result
        (holders held ++ .release [subject] :: frames) goal)) := by
  obtain ⟨own, purpose, frames, goal, started⟩ := prints.exists_started machine
  have down := (chain.withOwn own).descends purpose (.release [subject] :: frames) goal
  exact ⟨own, purpose, frames, goal, (leads_of_step started).trans down.leads⟩

/-- Printing to an output of its own goes down the chain with that output. On the way back the
subject is released last, and the goal takes what is left. -/
theorem run_printTo (capacity : Option Nat) :
    ((Operation.printTo capacity subject).awaiting machine).run =
      (((last.withOwn (.ofLimit capacity)).chainEnd .own result [] (.printed capacity)).release
        (held ++ [subject])).run := by
  let ending := last.withOwn (.ofLimit capacity)
  have started : ((Operation.printTo capacity subject).awaiting machine).step =
      .running ((machine.withOwn (.ofLimit capacity)).toRender .own subject [.release [subject]]
        (.printed capacity)) := rfl
  have down := (chain.withOwn (.ofLimit capacity)).descends .own [.release [subject]]
    (.printed capacity)
  have outcome := ending.isOutcome_chainEnd .own result [] (.printed capacity)
  have back : Returns []
      { ending.chainEnd .own result [] (.printed capacity) with
        stack := holders (held ++ [subject]) ++ [] }
      ({ ending.chainEnd .own result [] (.printed capacity) with stack := [] }.release
        (held ++ [subject])) :=
    returns_of_holders outcome _ []
  rw [← chainEnd_with_stack, ← chainEnd_with_stack, holders_append_append] at back
  rw [run_eq_finish, started, Next.finish, down.run_eq]
  exact back.reaches.run_eq

end Operations

/-- What a printing of a session has met can be released before the text is made, or after. -/
theorem release_allocate {operation : Operation} {output : Output} {text : String}
    (chain : Chain machine subject held (.ok text) last) (prints : operation.Prints subject)
    (reached : Leads (.between (.start output)) (.inside (operation.awaiting machine))) :
    (last.store.allocate (.text text)).release held =
      (last.store.release held).allocate (.text text) := by
  obtain ⟨own, _, _, _, ahead⟩ := chain.exists_leads prints
  have apart : ((last.withOwn own).store.allocate (.text text)).release held =
      ((last.withOwn own).store.release held).allocate (.text text) :=
    release_allocate_text (reached.trans ahead)
  exact apart

/-! ## Printing to an output of its own -/

/-- If the chain ends with an error, nothing has been written. -/
theorem run_printTo_error {error : EvalError}
    (chain : Chain machine subject held (.error error) last) (capacity : Option Nat) :
    ((Operation.printTo capacity subject).awaiting machine).run =
      (Answer.ofChain capacity (.error error),
        { last.toSession with store := last.store.release (held ++ [subject]) }) := by
  rw [chain.run_printTo, run_eq_finish]
  cases capacity with
  | none =>
      show (Except.error error, { last.toSession with
        store := (last.store.release (held ++ [subject])).release [] }) = _
      rw [Store.release_nil]
      rfl
  | some capacity => rfl

/-- If it ends with a text, the output takes what it has room for. -/
theorem run_printTo_ok {text : String} (chain : Chain machine subject held (.ok text) last)
    (capacity : Option Nat) :
    ((Operation.printTo capacity subject).awaiting machine).run =
      (Answer.ofChain capacity (.ok text),
        { last.toSession with store := last.store.release (held ++ [subject]) }) := by
  rw [chain.run_printTo, chainEnd_own, run_eq_finish]
  let left : Session := { last.toSession with store := last.store.release (held ++ [subject]) }
  have nothing : left.store.release [.empty] = left.store := Store.release_nil left.store
  cases capacity with
  | none =>
      have fits : (last.withOwn (.ofLimit none)).own.fits text.toUTF8.size :=
        Output.fits_of_unlimited _ rfl _
      have whole : (Output.empty.write text.toUTF8).captured = text := by
        rw [Output.write_empty_eq, Output.captured_ofText]
      simp only [if_pos fits]
      show (Except.ok (Answer.text (Output.empty.write text.toUTF8).captured),
        { left with store := left.store.release [.empty] }) = _
      rw [whole, nothing]
      rfl
  | some capacity =>
      have room : (last.withOwn (.ofLimit (some capacity))).own.fits text.toUTF8.size =
          decide (text.toUTF8.size ≤ capacity) := Output.fits_ofCapacity capacity _
      simp only [room, decide_eq_true_eq]
      by_cases fits : text.toUTF8.size ≤ capacity
      · simp only [if_pos fits]
        show (Except.ok (Answer.printed
            ((Output.ofCapacity capacity).write text.toUTF8).captured none),
          { left with store := left.store.release [.empty] }) = _
        rw [nothing, Output.captured, Output.stored_write_ofCapacity, Answer.ofChain, if_pos fits]
      · simp only [if_neg fits]
        show (Except.ok (Answer.printed
            ((Output.ofCapacity capacity).write text.toUTF8).captured (some .outputFailed)),
          left) = _
        rw [Output.captured, Output.stored_write_ofCapacity, Answer.ofChain, if_neg fits]

/-- How much room there is has no effect but on the answer. -/
theorem run_printTo_eq (chain : Chain machine subject held result last)
    (capacity : Option Nat) :
    ((Operation.printTo capacity subject).awaiting machine).run =
      (Answer.ofChain capacity result,
        { last.toSession with store := (last.store.release held).release [subject] }) := by
  rw [← Store.release_append]
  cases result with
  | error error => exact chain.run_printTo_error capacity
  | ok text => exact chain.run_printTo_ok capacity

end Chain

end Machine

/-- However a value is printed, its chain is followed to the one end that it has. If that is an
error, the error is all that comes of it. Otherwise the text at the end is the new object, or is
written in one piece or in several; an output of its own takes the beginning of the text that
there is room for, and what the session is left with does not depend on the room. -/
theorem printing_paths_agree (machine : Machine) (subject : Handle) :
    (∃! ending : List Handle × Except EvalError String × Machine,
        Chain machine subject ending.1 ending.2.1 ending.2.2) ∧
      ∀ (held : List Handle) (result : Except EvalError String) (last : Machine),
        Chain machine subject held result last →
        let base := .release [subject] :: machine.stack
        (∀ error, result = .error error →
          let failed := { last with
            store := last.store.release held
            control := .fail error
            stack := base
            goal := machine.goal }
          Returns base ((Operation.print subject).awaiting machine) failed ∧
            Returns base ((Operation.render subject).awaiting machine) failed) ∧
        (∀ text, result = .ok text →
          Returns base ((Operation.print subject).awaiting machine)
              { last with
                store := last.store.release held
                output := last.output.write text.toUTF8
                control := if last.output.fits text.toUTF8.size then .give .empty
                  else .fail .outputFailed
                stack := base
                goal := machine.goal } ∧
            Returns base ((Operation.render subject).awaiting machine)
              { last with
                store := (last.store.allocate (.text text)).release held
                control := .give (.owner last.store.nextAddress)
                stack := base
                goal := machine.goal } ∧
            (∀ (output : Output) (pieces : List String), String.join pieces = text →
              output.writePieces pieces =
                (output.write text.toUTF8, output.fits text.toUTF8.size)) ∧
            ∀ capacity, ((Output.ofCapacity capacity).write text.toUTF8).stored =
                text.toUTF8.extract 0 (min capacity text.toUTF8.size) ∧
              ((Output.ofCapacity capacity).fits text.toUTF8.size ↔
                text.toUTF8.size ≤ capacity)) ∧
        (∀ capacity, ((Operation.printTo capacity subject).awaiting machine).run =
          (Answer.ofChain capacity result,
            { last.toSession with store := (last.store.release held).release [subject] })) ∧
        ∀ (output : Output) (operation : Operation) (text : String), operation.Prints subject →
          Leads (.between (.start output)) (.inside (operation.awaiting machine)) →
          result = .ok text →
          (last.store.allocate (.text text)).release held =
            (last.store.release held).allocate (.text text) := by
  constructor
  · obtain ⟨held, result, last, chain⟩ := exists_chain machine subject
    refine ⟨(held, result, last), chain, ?_⟩
    rintro ⟨held', result', last'⟩ chain'
    obtain ⟨rfl, rfl, rfl⟩ := chain.unique chain'
    rfl
  intro held result last chain base
  have printed := chain.returns_print
  have rendered := chain.returns_render
  refine ⟨?_, ?_, chain.run_printTo_eq, ?_⟩
  · intro error failed
    cases failed
    exact ⟨printed, rendered⟩
  · intro text ended
    cases ended
    rw [chainEnd_output] at printed
    refine ⟨printed, rendered, ?_, ?_⟩
    · intro output pieces same
      rw [Output.writePieces_eq, same]
    · intro capacity
      rw [Output.fits_ofCapacity, decide_eq_true_iff]
      exact ⟨Output.stored_write_ofCapacity capacity _, Iff.rfl⟩
  · intro output operation text prints reached ended
    cases ended
    exact chain.release_allocate prints reached

/-- A method that writes to the output when its instance is printed, and gives nothing. -/
def tracingMethod : Method :=
  { name := renderMethod, params := [], body := .unary .print (.literal (.text "<")) }

/-- The machine that is to print an instance with the method to an output for three bytes. -/
def beforeTracing : Machine :=
  { classes := { entries := [("Traced", .root "Traced" [tracingMethod])] }
    store := Store.allocateInstance {} (.root "Traced" [tracingMethod])
    fuel := Session.fuelPerCommand
    control := .give (.owner 0)
    stack := []
    goal := .print (some 3) }

/-- The machine when the method has given nothing. -/
def afterTracing : Machine :=
  (beforeTracing.asked 0 tracingMethod).after 7

theorem leads_beforeTracing : Leads (.between (.start .empty)) (.inside beforeTracing) :=
  .head (.begin _ (.defineClass "Traced" none [tracingMethod]))
    (.head (.begin _ (.print (.create "Traced") (some 3))) (.single (.step _)))

theorem returns_afterTracing :
    Returns [] (beforeTracing.asked 0 tracingMethod) afterTracing := by
  have above : (beforeTracing.asked 0 tracingMethod).Above [] := List.nil_suffix
  exact above.returns_of_all (by rfl) ⟨rfl, rfl⟩

/-- What the method writes goes to the output of the session in any case. The empty value that
it gives is what is printed, after that or to an output of its own with room for three bytes
or for all of it. -/
theorem printing_paths_agree_of_tracing :
    (∃ last, Returns [.release [.owner 0]] ((Operation.print (.owner 0)).awaiting beforeTracing)
        last ∧ last.output = .ofText ("<" ++ "None")) ∧
      (∃ session : Session, session.output = .ofText "<" ∧
        beforeTracing.run = (.ok (.printed "Non" (some .outputFailed)), session) ∧
        ((Operation.printTo none (.owner 0)).awaiting beforeTracing).run =
          (.ok (.text "None"), session)) ∧
      (afterTracing.store.allocate (.text "None")).release [.empty, .owner 0] =
        (afterTracing.store.release [.empty, .owner 0]).allocate (.text "None") := by
  have renders : beforeTracing.store.RendersBy (.owner 0) 0 tracingMethod := ⟨_, rfl, rfl⟩
  have chain : Chain beforeTracing (.owner 0) [.empty, .owner 0] (.ok "None") afterTracing :=
    .link renders (by decide) returns_afterTracing rfl (.text rfl)
  obtain ⟨_, agree⟩ := printing_paths_agree beforeTracing (.owner 0)
  obtain ⟨_, texts, runs, apart⟩ := agree _ _ _ chain
  obtain ⟨printed, _⟩ := texts "None" rfl
  refine ⟨⟨_, printed, Output.write_ofText "<" "None"⟩, ⟨_, rfl, runs (some 3), runs none⟩, ?_⟩
  exact apart .empty _ "None" (.printTo (some 3)) leads_beforeTracing rfl

end Offside
