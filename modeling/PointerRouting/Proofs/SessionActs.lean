/-
Module: PointerRouting.Proofs.SessionActs
Purpose: What acts in a session come to. An outcome concludes an act if the act leaves its routing
  and has told its notices, one after another and whatever is routed; acts that are concluded one
  by one are concluded in a row, and a loop that goes through the places of the targets ends where
  the plain pass over the list of targets ends, with what it has told on its way.
Main exports: Session.tell, Session.tellAll, Session.left, Session.conclude,
  Session.conclude_andThen, Session.eachTarget_of_visits, Session.keepTargets_of_parts,
  Session.sweep_eq
-/
import PointerRouting.Session.Basic

namespace PointerRouting.Session

variable {World Value Other Carried : Type} {session moved : Session World}

/-- What a notice comes to in a session. -/
def tell (session : Session World) (notice : Notice) : Session World :=
  match notice.issue? with
  | none => session.recorded notice.category notice.severity notice.message
  | some (.overlap pointers) =>
    session.warnedOfIssue .pilfer (overlapKey pointers) notice.message
  | some (.idleClaim token) =>
    if session.outlets.devMode ∧ token ∉ session.warnedTokens then
      { session with warnedTokens := token :: session.warnedTokens }.warned .pilfer notice.message
    else session

/-- A plain notice comes to its line. -/
theorem tell_of_plain {notice : Notice} (plain : notice.issue? = none) (session : Session World) :
    session.tell notice = session.recorded notice.category notice.severity notice.message := by
  rw [tell, plain]

/-- What notices come to, told one after another. -/
def tellAll (session : Session World) (notices : List Notice) : Session World :=
  notices.foldl tell session

@[simp] theorem tellAll_nil (session : Session World) : session.tellAll [] = session := rfl

@[simp] theorem tellAll_cons (session : Session World) (notice : Notice) (notices : List Notice) :
    session.tellAll (notice :: notices) = (session.tell notice).tellAll notices := rfl

theorem tellAll_append (session : Session World) (first second : List Notice) :
    session.tellAll (first ++ second) = (session.tellAll first).tellAll second :=
  List.foldl_append

@[simp] theorem routing_withRouting (session : Session World) (routing : Routing) :
    (session.withRouting routing).routing = routing := rfl

@[simp] theorem withRouting_withRouting (session : Session World) (first second : Routing) :
    (session.withRouting first).withRouting second = session.withRouting second := rfl

@[simp] theorem targets_withTargets (session : Session World) (targets : List Target) :
    (session.withTargets targets).routing.targets = targets := rfl

@[simp] theorem withTargets_withTargets (session : Session World) (first second : List Target) :
    (session.withTargets first).withTargets second = session.withTargets second := rfl

theorem withTargets_set_self {place : Nat} {target : Target}
    (there : session.routing.targets[place]? = some target) :
    session.withTargets (session.routing.targets.set place target) = session := by
  obtain ⟨within, same⟩ := List.getElem?_eq_some_iff.mp there
  rw [← same, List.set_getElem_self]
  rfl

/-- A line is written in the same way whatever is routed. -/
theorem recorded_withRouting (session : Session World) (routing : Routing) (category : Category)
    (severity : Severity) (message : String) :
    (session.withRouting routing).recorded category severity message =
      (session.recorded category severity message).withRouting routing := by
  simp only [recorded, withRouting]
  split <;> rfl

theorem warned_withRouting (session : Session World) (routing : Routing) (category : Category)
    (detail : String) :
    (session.withRouting routing).warned category detail =
      (session.warned category detail).withRouting routing := by
  simp only [warned, recorded_withRouting]
  simp only [withRouting]
  split <;> rfl

theorem warnedOfIssue_withRouting (session : Session World) (routing : Routing)
    (category : Category) (key detail : String) :
    (session.withRouting routing).warnedOfIssue category key detail =
      (session.warnedOfIssue category key detail).withRouting routing := by
  simp only [warnedOfIssue, apply_ite (withRouting · routing), ← warned_withRouting]
  rfl

/-- A notice comes to the same whatever is routed. -/
theorem tell_withRouting (session : Session World) (routing : Routing) (notice : Notice) :
    (session.withRouting routing).tell notice = (session.tell notice).withRouting routing := by
  unfold tell
  split
  · exact recorded_withRouting ..
  · exact warnedOfIssue_withRouting ..
  · simp only [apply_ite (withRouting · routing), ← warned_withRouting]
    rfl

theorem tellAll_withRouting (session : Session World) (routing : Routing)
    (notices : List Notice) :
    (session.withRouting routing).tellAll notices =
      (session.tellAll notices).withRouting routing := by
  induction notices generalizing session with
  | nil => rfl
  | cons notice rest ih => rw [tellAll_cons, tellAll_cons, tell_withRouting, ih]

/-- Telling notices leaves the routing as it is. -/
@[simp] theorem routing_tellAll (session : Session World) (notices : List Notice) :
    (session.tellAll notices).routing = session.routing := by
  change ((session.withRouting session.routing).tellAll notices).routing = session.routing
  rw [tellAll_withRouting, routing_withRouting]

/-- Telling a notice leaves the routing as it is. -/
@[simp] theorem routing_tell (session : Session World) (notice : Notice) :
    (session.tell notice).routing = session.routing :=
  routing_tellAll session [notice]

/-- A notice comes to the same with whatever targets. -/
theorem tell_withTargets (session : Session World) (targets : List Target) (notice : Notice) :
    (session.withTargets targets).tell notice = (session.tell notice).withTargets targets := by
  rw [withTargets, withTargets, tell_withRouting, routing_tell]

/-- What an outcome leaves of a session: its routing, with its notices told. -/
def left (session : Session World) (outcome : Outcome) : Session World :=
  (session.withRouting outcome.routing).tellAll outcome.notices

@[simp] theorem routing_left (session : Session World) (outcome : Outcome) :
    (session.left outcome).routing = outcome.routing := routing_tellAll _ _

/-- How an act concludes whose outcome is known: with a value if it is done, and otherwise with the
violation. -/
def conclude (session : Session World) (outcome : Outcome) (value : Value) :
    EStateM.Result Violation (Session World) Value :=
  match outcome.violation with
  | none => .ok value (session.left outcome)
  | some violation => .error violation (session.left outcome)

theorem bind_of_ok {act : Act World Value} {next : Value → Act World Other} {value : Value}
    (done : act session = .ok value moved) : (act >>= next) session = next value moved := by
  simp only [Bind.bind, EStateM.bind, done]

theorem bind_of_error {act : Act World Value} {next : Value → Act World Other}
    {violation : Violation} (stopped : act session = .error violation moved) :
    (act >>= next) session = .error violation moved := by
  simp only [Bind.bind, EStateM.bind, stopped]

/-- An act that looks at the session first goes on with it as it is. -/
theorem get_bind (act : Session World → Act World Value) (session : Session World) :
    (get >>= act) session = act session session := rfl

/-- What a second outcome leaves of what a first has left: the notices of the first come first. -/
theorem left_left (session : Session World) (first second : Outcome) :
    (session.left first).left second =
      session.left { second with notices := first.notices ++ second.notices } := by
  simp only [left, tellAll_withRouting, withRouting_withRouting, tellAll_append]

/-- An act after another concludes as the second outcome after the first does. -/
theorem conclude_andThen {act : Act World Unit} {next : Act World Value} {outcome : Outcome}
    {value : Value} (following : Routing → Outcome)
    (first : act session = session.conclude outcome ())
    (second : ∀ moved : Session World,
      next moved = moved.conclude (following moved.routing) value) :
    (act >>= fun _ => next) session = session.conclude (outcome.andThen following) value := by
  cases stopped : outcome.violation with
  | some violation =>
      rw [conclude, stopped] at first
      rw [bind_of_error first, Outcome.andThen_of_violation stopped, conclude, stopped]
  | none =>
      rw [conclude, stopped] at first
      rw [bind_of_ok first, second, routing_left, Outcome.andThen_of_done stopped]
      simp only [conclude, left_left]

/-- What an act gives may be put aside. -/
theorem conclude_return {act : Act World Unit} {outcome : Outcome} (value : Value)
    (done : act session = session.conclude outcome ()) :
    (do act; return value) session = session.conclude outcome value := by
  unfold conclude at done ⊢
  cases stopped : outcome.violation with
  | some violation =>
      rw [stopped] at done
      exact bind_of_error done
  | none =>
      rw [stopped] at done
      exact bind_of_ok done

/-! ### Loops -/

theorem visitPlace_of_some {visit : Nat → Target → Carried → Act World Carried} {place : Nat}
    {target : Target} (there : session.routing.targets[place]? = some target)
    (carried : Carried) :
    visitPlace visit carried place session = visit place target carried session := by
  rw [visitPlace, get_bind, there]

theorem visitPlace_of_none {visit : Nat → Target → Carried → Act World Carried} {place : Nat}
    (beyond : session.routing.targets[place]? = none) (carried : Carried) :
    visitPlace visit carried place session = .ok carried session := by
  rw [visitPlace, get_bind, beyond]
  rfl

theorem write_eq (place : Nat) (target : Target) (session : Session World) :
    write place target session =
      .ok () (session.withTargets (session.routing.targets.set place target)) := rfl

/-- Putting a target in the place behind the visited ones puts it in front of the rest. -/
theorem set_of_visited {visited rest : List Target} {target : Target} {targets : List Target}
    (visiting : targets = visited ++ target :: rest) (edited : Target) :
    targets.set visited.length edited = visited ++ edited :: rest := by
  rw [visiting, List.set_append_right _ _ (Nat.le_refl _), Nat.sub_self, List.set_cons_zero]

/-- With some targets visited, going on through the places is visiting the next target and then
going on behind it. -/
theorem foldlM_visitPlace_cons {visit : Nat → Target → Carried → Act World Carried}
    {visited rest : List Target} {target : Target}
    (visiting : session.routing.targets = visited ++ target :: rest) (carried : Carried) :
    (List.range' visited.length (target :: rest).length).foldlM (visitPlace visit) carried session =
      (visit visited.length target carried >>= fun carried =>
        (List.range' (visited.length + 1) rest.length).foldlM (visitPlace visit) carried)
          session := by
  have there : session.routing.targets[visited.length]? = some target := by simp [visiting]
  rw [List.length_cons, List.range'_succ, List.foldlM_cons]
  simp only [Bind.bind, EStateM.bind, visitPlace_of_some there]

/-- Where every visit changes its target, gives notices and carries on, going through the places
changes all targets and gives all notices in their order. -/
theorem eachTarget_of_visits {visit : Nat → Target → Carried → Act World Carried}
    {change : Target → Target} {report : Target → List Notice}
    {onward : Carried → Target → Carried}
    (visits : ∀ place target carried (session : Session World),
      session.routing.targets[place]? = some target →
        visit place target carried session =
          .ok (onward carried target)
            ((session.withTargets (session.routing.targets.set place (change target))).tellAll
              (report target)))
    (carried : Carried) (session : Session World) :
    eachTarget visit carried session =
      .ok (session.routing.targets.foldl onward carried)
        ((session.withTargets (session.routing.targets.map change)).tellAll
          (session.routing.targets.flatMap report)) := by
  suffices goesOn : ∀ (rest visited : List Target) (carried : Carried) (session : Session World),
      session.routing.targets = visited ++ rest →
        (List.range' visited.length rest.length).foldlM (visitPlace visit) carried session =
          .ok (rest.foldl onward carried)
            ((session.withTargets (visited ++ rest.map change)).tellAll (rest.flatMap report)) by
    have all := goesOn session.routing.targets [] carried session rfl
    rw [List.length_nil, ← List.range_eq_range'] at all
    exact all
  -- The visited targets have been changed, those in the rest are as they were at the start.
  intro rest
  induction rest with
  | nil =>
      intro visited carried session targets
      rw [List.append_nil] at targets
      rw [List.map_nil, List.append_nil, ← targets]
      rfl
  | cons target rest ih =>
      intro visited carried session targets
      have there : session.routing.targets[visited.length]? = some target := by simp [targets]
      have here := visits _ _ carried _ there
      rw [set_of_visited targets, List.append_cons] at here
      have onwards := ih (visited ++ [change target]) (onward carried target)
        ((session.withTargets (visited ++ [change target] ++ rest)).tellAll (report target))
        (by rw [routing_tellAll, targets_withTargets])
      rw [List.length_append, List.length_singleton] at onwards
      rw [foldlM_visitPlace_cons targets, bind_of_ok here, onwards]
      simp [withTargets, tellAll_withRouting, tellAll_append]

/-- A loop whose steps are steps of another loop goes where that one does. -/
theorem foldlM_of_steps {State : Type} {step : Carried → Nat → Act World Carried}
    {advance : State → Nat → State} {carry : State → Carried} {stage : State → Session World}
    (steps : ∀ state place,
      step (carry state) place (stage state) =
        .ok (carry (advance state place)) (stage (advance state place)))
    (places : List Nat) (state : State) :
    places.foldlM step (carry state) (stage state) =
      .ok (carry (places.foldl advance state)) (stage (places.foldl advance state)) := by
  induction places generalizing state with
  | nil => rfl
  | cons place places ih => rw [List.foldlM_cons, bind_of_ok (steps state place), ih, List.foldl_cons]

/-- A session in the middle of a pass that keeps some targets: what is not kept has been told. -/
def amid (session : Session World) (report : Target → Notice) (pass : Compaction Target) :
    Session World :=
  (session.withTargets pass.slots.toList).tellAll (pass.dropped.map report)

@[simp] theorem targets_amid (session : Session World) (report : Target → Notice)
    (pass : Compaction Target) :
    (session.amid report pass).routing.targets = pass.slots.toList := by
  rw [amid, routing_tellAll, targets_withTargets]

section

variable {keeps : Target → Bool} {change : Target → Target} {part : Target → Act World Unit}
  {report : Target → Notice}

/-- A place of the pass in a session is a place of the pass over the slots of the list. -/
theorem visitPlace_keepOrPart
    (parts : ∀ target (session : Session World),
      part target session = .ok () (session.tell (report target)))
    (session : Session World) (pass : Compaction Target) (place : Nat) :
    visitPlace (keepOrPart keeps change part) pass.written place (session.amid report pass) =
      .ok (pass.read keeps change place).written
        (session.amid report (pass.read keeps change place)) := by
  have slot : (session.amid report pass).routing.targets[place]? = pass.slots[place]? := by
    rw [targets_amid, Array.getElem?_toList]
  cases read : pass.slots[place]? with
  | none =>
      rw [visitPlace_of_none (slot.trans read), Compaction.read, read]
  | some target =>
      rw [visitPlace_of_some (slot.trans read), keepOrPart, Compaction.read, read]
      cases kept : keeps target with
      | true =>
          have writes : write pass.written (change target) (session.amid report pass) =
              .ok () (session.amid report
                { pass with slots := pass.slots.setIfInBounds pass.written (change target) }) := by
            rw [write_eq, targets_amid, amid, amid, ← Array.toList_setIfInBounds]
            simp [withTargets, tellAll_withRouting]
          simp only [kept, if_true, bind_of_ok writes]
          rfl
      | false =>
          have told : part target (session.amid report pass) =
              .ok () (session.amid report { pass with dropped := pass.dropped ++ [target] }) := by
            rw [parts, amid, amid, List.map_append, tellAll_append]
            rfl
          simp only [kept, Bool.false_eq_true, if_false, bind_of_ok told]
          rfl

variable (keeps change report) in
/-- Keeping some of the targets in a session leaves those that the pass over the slots of the list
keeps, and reports each of the others. -/
theorem keepTargets_of_parts
    (parts : ∀ target (session : Session World),
      part target session = .ok () (session.tell (report target)))
    (session : Session World) :
    keepTargets keeps change part session =
      .ok () ((session.withTargets (compact keeps change session.routing.targets).1).tellAll
        ((compact keeps change session.routing.targets).2.map report)) := by
  let slots : Compaction Target := { slots := session.routing.targets.toArray }
  let pass := (List.range session.routing.targets.length).foldl (Compaction.read keeps change) slots
  have passes : eachTarget (keepOrPart keeps change part) 0 session =
      .ok pass.written (session.amid report pass) :=
    foldlM_of_steps (visitPlace_keepOrPart parts session) _ slots
  rw [keepTargets, bind_of_ok passes]
  change EStateM.Result.ok () ((session.amid report pass).withTargets
    ((session.amid report pass).routing.targets.take pass.written)) = _
  rw [targets_amid, amid]
  simp only [withTargets, routing_tellAll, ← tellAll_withRouting]
  rfl

end

/-- Editing every target stops where the pass over the list of targets stops. -/
theorem sweep_eq (edit : Target.Edit) (session : Session World) :
    sweep edit session = session.conclude
      { routing := { session.routing with
          targets := (PointerRouting.sweep edit session.routing.targets).1 }
        violation := (PointerRouting.sweep edit session.routing.targets).2 } () := by
  suffices goesOn : ∀ (rest visited : List Target) (session : Session World),
      session.routing.targets = visited ++ rest →
        (List.range' visited.length rest.length).foldlM
            (visitPlace fun place target _ => editPlace edit place target) () session =
          match (PointerRouting.sweep edit rest).2 with
          | none => .ok () (session.withTargets (visited ++ (PointerRouting.sweep edit rest).1))
          | some violation =>
            .error violation (session.withTargets (visited ++ (PointerRouting.sweep edit rest).1)) by
    have all := goesOn session.routing.targets [] session rfl
    rw [List.length_nil, ← List.range_eq_range'] at all
    exact all
  intro rest
  induction rest with
  | nil =>
      intro visited session targets
      rw [PointerRouting.sweep, ← targets]
      rfl
  | cons target rest ih =>
      intro visited session targets
      rw [foldlM_visitPlace_cons targets, PointerRouting.sweep]
      cases outcome : edit target with
      | error violation left =>
          have stopped : editPlace edit visited.length target session =
              .error violation (session.withTargets (visited ++ left :: rest)) := by
            rw [editPlace, outcome, ← set_of_visited targets]
            rfl
          rw [bind_of_error stopped]
      | ok _ edited =>
          have done : editPlace edit visited.length target session =
              .ok () (session.withTargets (visited ++ edited :: rest)) := by
            rw [editPlace, outcome, ← set_of_visited targets]
            rfl
          have onwards := ih (visited ++ [edited])
            (session.withTargets (visited ++ edited :: rest)) (List.append_cons ..)
          rw [List.length_append, List.length_singleton] at onwards
          rw [bind_of_ok done, onwards]
          simp only [withTargets_withTargets, ← List.append_cons]

/-- An edit that nothing stops reaches every target. -/
theorem sweep_of_done {edit : Target.Edit} {edited : Target → Target}
    (done : ∀ target, edit.result target = .ok (edited target)) (session : Session World) :
    sweep edit session = session.conclude
      { routing := { session.routing with targets := session.routing.targets.map edited } } () := by
  rw [sweep_eq, sweep_of_ok fun target _ => done target]

end PointerRouting.Session
