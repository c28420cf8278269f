import Offside.Proofs.PrintingPaths

/-!
# A value is printed whole or not at all

To print a value, methods of the value and of what they return may have to run, and they may
print themselves. The text of the value is known only when all of them are done, and it is
written at once. So nothing is written of it if one of them fails, and nothing gets in between
if none does; an output with limited room then cuts the text at the end and nowhere else.
-/

namespace Offside

open Machine Point

namespace Machine

variable {machine last : Machine} {subject : Handle} {held : List Handle} {texts : List String}
  {ending : Purpose → List Frame → Goal → Machine}

/-- The frames that hold what a chain has met are frames of the operation. -/
theorem isOperational_of_mem_holders : ∀ frame ∈ holders held, frame.isOperational := by
  intro frame member
  obtain ⟨handle, _, rfl⟩ := List.mem_map.mp member
  rfl

/-- A rendering and a printing begin alike, with what writes nothing. -/
theorem writesInside_of_step_toRender {purpose : Purpose} {op : UnaryOp}
    (begins : ((machine.give subject).push (.unary op)).step =
      .running (machine.toRender purpose subject (.release [subject] :: machine.stack)
        machine.goal))
    (writes : ∀ purpose base goal, WritesInside base (machine.toRender purpose subject base goal)
      texts (ending purpose (holders held ++ base) goal)) :
    WritesInside (.release [subject] :: machine.stack)
      ((machine.give subject).push (.unary op)) texts
      (ending purpose (holders held ++ .release [subject] :: machine.stack) machine.goal) := by
  refine .silent ?_ begins (writes?_of_isOutcome rfl) (writes purpose _ _)
  rintro ⟨top, _⟩
  cases top

/-- The way back from the end of a chain writes nothing. -/
theorem writesInside_of_chainEnd (last : Machine) (purpose : Purpose)
    (result : Except EvalError String) (held : List Handle) (base : List Frame) (goal : Goal) :
    WritesInside base (last.chainEnd purpose result (holders held ++ base) goal) []
      ((last.chainEnd purpose result base goal).release held) := by
  have back := writesInside_of_holders (last.isOutcome_chainEnd purpose result base goal) held base
  rw [← chainEnd_with_stack, ← chainEnd_with_stack] at back
  exact back

end Machine

/-- A printing goes as the rendering of the same value does, with the same texts written by the
same bodies before anything of the value is. If the rendering fails, the printing ends in the very
same way. If it gives a text, the printing writes the text in one piece after those of the bodies
and writes nothing else; it differs from the rendering only in that, and in that it makes no new
object. Where the room does not suffice, the beginning that fits is kept and the printing fails,
and what the bodies did stays done. -/
theorem printed_whole_or_not_at_all {output : Output} {machine : Machine} {subject : Handle}
    (reached : Leads (.between (.start output))
      (.inside ((Operation.print subject).awaiting machine))) :
    let base := .release [subject] :: machine.stack
    ∃ (texts : List String) (rendered : Machine),
      WritesInside base ((Operation.render subject).awaiting machine) texts rendered ∧
      rendered.ReturnedTo base ∧
      rendered.output = machine.output.write (String.join texts).toUTF8 ∧
      ((∃ error, rendered.control = .fail error ∧
          WritesInside base ((Operation.print subject).awaiting machine) texts rendered) ∨
        ∃ (text : String) (store : Store) (writing written printed : Machine),
          rendered.control = .give (.owner store.nextAddress) ∧
          rendered.store = store.allocate (.text text) ∧
          WritesInside base ((Operation.print subject).awaiting machine) texts writing ∧
          writing.AtOperation base ∧ writing.writes? = some text ∧
          writing.step = .running written ∧ WritesInside base written [] printed ∧
          printed = { rendered with
            store
            output := machine.output.write (String.join texts ++ text).toUTF8
            control := printed.control } ∧
          ((∀ room ∈ rendered.output.room?, text.toUTF8.size ≤ room) →
            printed.control = .give .empty) ∧
          ∀ room ∈ rendered.output.room?, room < text.toUTF8.size →
            printed.control = .fail .outputFailed ∧
              printed.output.stored = rendered.output.stored ++ text.toUTF8.extract 0 room) := by
  intro base
  obtain ⟨held, result, last, chain⟩ := exists_chain machine subject
  obtain ⟨texts, ending, ends, writes⟩ := chain.exists_writesInside
  have rendering : WritesInside base ((Operation.render subject).awaiting machine) texts _ :=
    writesInside_of_step_toRender rfl writes
  have printing : WritesInside base ((Operation.print subject).awaiting machine) texts _ :=
    writesInside_of_step_toRender rfl writes
  cases ends with
  | @error error =>
      have back := writesInside_of_chainEnd last .value (.error error) held base machine.goal
      have rendered := rendering.trans back
      have printed := printing.trans back
      rw [List.append_nil] at rendered printed
      exact ⟨texts, _, rendered, ⟨rfl, rfl⟩, rendered.output_eq,
        .inl ⟨error, rfl, printed⟩⟩
  | @text final pieces there =>
      let text := String.join pieces
      have released := chain.release_allocate .print reached
      have sameNext : (last.store.release held).nextAddress = last.store.nextAddress :=
        Store.nextAddress_dropOwners _ _
      -- The rendering makes an object of the text, where the printing writes it.
      have made : WritesInside base (last.toRender .value final (holders held ++ base) machine.goal)
          [] ((last.chainEnd .value (.ok text) base machine.goal).release held) :=
        .silent (not_returnedTo_of_control rfl) (step_toRender_text there .value _ _) rfl
          (writesInside_of_chainEnd last .value (.ok text) held base machine.goal)
      have rendered := rendering.trans made
      rw [List.append_nil] at rendered
      have grown : last.output = machine.output.write (String.join texts).toUTF8 :=
        rendered.output_eq
      have whole : last.output.write text.toUTF8 =
          machine.output.write (String.join texts ++ text).toUTF8 := by
        rw [grown, Output.write_append, Output.toUTF8_append]
      have written := writesInside_of_chainEnd last .output (.ok text) held base machine.goal
      refine ⟨texts, _, rendered, ⟨rfl, rfl⟩, grown, .inr ⟨text, last.store.release held, _, _, _,
        ?_, released, printing, ⟨⟨_, rfl, isOperational_of_mem_holders⟩, rfl⟩,
        writes?_eq_some_iff.mpr ⟨final, pieces, rfl, there, rfl⟩,
        step_toRender_text there .output _ _, written, ?_, ?_, ?_⟩⟩
      · rw [sameNext]
        rfl
      · rw [chainEnd_output, whole]
        rfl
      · intro enough
        have fits : last.output.fits text.toUTF8.size := (Output.fits_iff _ _).mpr enough
        rw [chainEnd_output]
        exact if_pos fits
      · intro room limited short
        have crossed : ¬last.output.fits text.toUTF8.size := fun fits =>
          Nat.not_le_of_lt short ((Output.fits_iff _ _).mp fits room limited)
        rw [chainEnd_output]
        exact ⟨if_neg crossed, Output.stored_write_of_room? _ limited _⟩

/-- A method that writes before it gives the text of its instance. -/
def loudMethod : Method where
  name := renderMethod
  params := []
  body := .sequence [.unary .print (.literal (.text "<")), .literal (.text "abc")]

/-- The machine that is to print an instance with the method where three bytes fit. -/
def beforeLoud : Machine :=
  { classes := { entries := [("Loud", .root "Loud" [loudMethod])] }
    store := Store.allocateInstance {} (.root "Loud" [loudMethod])
    output := .ofCapacity 3
    fuel := Session.fuelPerCommand
    control := .give (.owner 0)
    stack := []
    goal := .inspect .describe }

theorem leads_beforeLoud : Leads (.between (.start (.ofCapacity 3)))
    (.inside ((Operation.print (.owner 0)).awaiting beforeLoud)) :=
  .head (.begin _ (.defineClass "Loud" none [loudMethod]))
    (.head (.begin _ (.inspect .describe (.unary .print (.create "Loud"))))
      (.head (.step _) (.single (.step _))))

/-- The machine when it has the text of the instance as an object. -/
def afterLoud : Machine :=
  ((Operation.render (.owner 0)).awaiting beforeLoud).after 17

theorem returns_afterLoud :
    Returns [.release [.owner 0]] ((Operation.render (.owner 0)).awaiting beforeLoud)
      afterLoud :=
  (Operation.render (.owner 0)).returns_of_all beforeLoud (by with_unfolding_all rfl)
    ⟨by with_unfolding_all rfl, by with_unfolding_all rfl⟩

/-- One of the three bytes is taken when the text of the instance comes to be written, and two
are left for it. -/
theorem printed_whole_or_not_at_all_of_cut :
    Leads (.between (.start (.ofCapacity 3)))
        (.inside ((Operation.print (.owner 0)).awaiting beforeLoud)) ∧
      ∃ printed, Returns [.release [.owner 0]] ((Operation.print (.owner 0)).awaiting beforeLoud)
          printed ∧
        printed.control = .fail .outputFailed ∧ printed.output.stored = "<ab".toUTF8 := by
  refine ⟨leads_beforeLoud, ?_⟩
  obtain ⟨texts, rendered, writes, returned, _, outcome⟩ :=
    printed_whole_or_not_at_all leads_beforeLoud
  cases returns_afterLoud.unique ⟨writes.reaches, returned⟩
  have given : afterLoud.control = .give (.owner 3) := by with_unfolding_all rfl
  have there : afterLoud.store.object? 3 = some (.text "abc") := by with_unfolding_all rfl
  have room : afterLoud.output.room? = some 2 := by with_unfolding_all rfl
  rcases outcome with ⟨error, failed, _⟩ | ⟨text, store, writing, written, printed, found, made,
    before, _, writes, stepped, after, same, _, cut⟩
  · cases given.symm.trans failed
  · have address : store.nextAddress = 3 :=
      (Handle.owner.inj (Control.give.inj (given.symm.trans found))).symm
    have printedText : text = "abc" := by
      rw [made, ← address, Store.object?_allocate_self] at there
      cases there
      rfl
    subst printedText
    obtain ⟨failed, stored⟩ := cut 2 room (by decide)
    have ended : printed.ReturnedTo [.release [.owner 0]] := by
      constructor
      · rw [same]
        exact returned.1
      · rw [failed]
        rfl
    obtain ⟨final, _, control, _⟩ := writes?_eq_some_iff.mp writes
    have goesOn : ¬writing.ReturnedTo [.release [.owner 0]] :=
      not_returnedTo_of_control (by rw [control]; rfl)
    refine ⟨printed, ⟨before.reaches.trans (.step goesOn stepped after.reaches), ended⟩, failed, ?_⟩
    rw [stored]
    with_unfolding_all rfl

end Offside
