import JsonShape.CommandLine.Run

/-!
# Runs

A run goes on over the console that its last step has left, or ends there with a failure (`Run.on_bind`).  A step
is `Silent` if it neither prints nor writes a file, whatever comes of it, and a run is `Tacit` if it has done
neither where it fails.  A silent step before a tacit run makes a tacit run.

Every command is tacit (`Command.tacit_perform`): what it prints, and the file that it writes, come after all that
can fail.  So nothing is lost in `Command.run`, where a failure is its messages and nothing else.
-/

namespace JsonShape

namespace Run

variable {α β : Type}

theorem on_bind (run : Run α) (next : α → Run β) (console : Console) :
    (run >>= next).on console =
      match run.on console with
      | (.ok value, after) => (next value).on after
      | (.error trouble, after) => (.error trouble, after) := by
  show StateT.run (ExceptT.run run >>= ExceptT.bindCont next) console = _
  rw [StateT.run_bind]
  show (match run.on console with
    | (result, between) => (ExceptT.bindCont next result).run between) = _
  rcases run.on console with ⟨_ | _, _⟩ <;> rfl

theorem on_bind_ok {run : Run α} {console after : Console} {value : α} (h : run.on console = (.ok value, after))
    (next : α → Run β) : (run >>= next).on console = (next value).on after := by
  rw [on_bind, h]

theorem on_bind_error {run : Run α} {console after : Console} {trouble : Trouble}
    (h : run.on console = (.error trouble, after)) (next : α → Run β) :
    (run >>= next).on console = (.error trouble, after) := by
  rw [on_bind, h]

@[simp] theorem on_pure (value : α) (console : Console) : (pure value : Run α).on console = (.ok value, console) :=
  rfl

@[simp] theorem on_attempt (result : Except Trouble α) (console : Console) :
    (attempt result).on console = (result, console) := rfl

@[simp] theorem on_tree (console : Console) : tree.on console = (.ok console.tree, console) := rfl

@[simp] theorem on_print (text : String) (console : Console) :
    (print text).on console = (.ok (), { console with printed := console.printed ++ text }) := rfl

@[simp] theorem on_setTree (tree : FileTree) (console : Console) :
    (setTree tree).on console = (.ok (), { console with tree }) := rfl

@[simp] theorem on_setOutput (output : Output) (console : Console) :
    (setOutput output).on console = (.ok (), { console with output := some output }) := rfl

end Run

/-! ## Runs that fail -/

/-- Nothing has been printed and no file written between the one console and the other. -/
def Console.Untouched (before after : Console) : Prop :=
  after.printed = before.printed ∧ after.output = before.output

namespace Run

variable {α β : Type}

/-- A run that neither prints nor writes a file. -/
def Silent (run : Run α) : Prop := ∀ console, Console.Untouched console (run.on console).2

/-- A run that has printed nothing and written no file where it fails. -/
def Tacit (run : Run α) : Prop :=
  ∀ console trouble after, run.on console = (.error trouble, after) → Console.Untouched console after

theorem silent_attempt (result : Except Trouble α) : (attempt result).Silent := fun _ => ⟨rfl, rfl⟩

theorem silent_tree : tree.Silent := fun _ => ⟨rfl, rfl⟩

theorem silent_setTree (tree : FileTree) : (setTree tree).Silent := fun _ => ⟨rfl, rfl⟩

/-- A run that always comes to a value. -/
theorem tacit_of_total {run : Run α} (h : ∀ console, ∃ value, (run.on console).1 = .ok value) : run.Tacit := by
  intro console trouble after he
  obtain ⟨value, hv⟩ := h console
  rw [he] at hv
  cases hv

theorem Silent.bind {run : Run α} {next : α → Run β} (h : run.Silent) (hn : ∀ value, (next value).Silent) :
    (run >>= next).Silent := by
  intro console
  obtain ⟨hprinted, houtput⟩ := h console
  rcases hrun : run.on console with ⟨result, between⟩
  rw [hrun] at hprinted houtput
  cases result with
  | error trouble =>
    rw [on_bind_error hrun]
    exact ⟨hprinted, houtput⟩
  | ok value =>
    obtain ⟨hprinted', houtput'⟩ := hn value between
    rw [on_bind_ok hrun]
    exact ⟨hprinted'.trans hprinted, houtput'.trans houtput⟩

/-- A silent step may come before all of a tacit run. -/
theorem Silent.bind_tacit {run : Run α} {next : α → Run β} (h : run.Silent) (hn : ∀ value, (next value).Tacit) :
    (run >>= next).Tacit := by
  intro console trouble after he
  obtain ⟨hprinted, houtput⟩ := h console
  rcases hrun : run.on console with ⟨result, between⟩
  rw [hrun] at hprinted houtput
  cases result with
  | error other =>
    obtain ⟨-, rfl⟩ := Prod.mk.inj ((on_bind_error hrun next).symm.trans he)
    exact ⟨hprinted, houtput⟩
  | ok value =>
    rw [on_bind_ok hrun] at he
    obtain ⟨hprinted', houtput'⟩ := hn value between trouble after he
    exact ⟨hprinted'.trans hprinted, houtput'.trans houtput⟩

/-- A tacit run may be followed by giving back a value. -/
theorem Tacit.bind_pure {run : Run α} (h : run.Tacit) (value : β) : (run >>= fun _ => pure value).Tacit := by
  intro console trouble after he
  rcases hrun : run.on console with ⟨result, between⟩
  cases result with
  | error other =>
    obtain ⟨-, rfl⟩ := Prod.mk.inj ((on_bind_error hrun _).symm.trans he)
    exact h console other between hrun
  | ok _ =>
    rw [on_bind_ok hrun] at he
    cases he

end Run

theorem silent_makeParent (path : String) : (makeParent path).Silent := by
  unfold makeParent
  cases PathText.parent? path with
  | none => exact fun _ => ⟨rfl, rfl⟩
  | some parent =>
    refine Run.silent_tree.bind fun tree => ?_
    exact (Run.silent_attempt _).bind fun made => Run.silent_setTree made

theorem tacit_deliver (out : Option String) (text : String) : (deliver out text).Tacit := by
  cases out with
  | none => exact Run.tacit_of_total fun _ => ⟨(), rfl⟩
  | some path =>
    refine (silent_makeParent path).bind_tacit fun _ => Run.silent_tree.bind_tacit fun tree => ?_
    refine (Run.silent_attempt _).bind_tacit fun written => (Run.silent_setTree written).bind_tacit fun _ => ?_
    exact Run.tacit_of_total fun _ => ⟨(), rfl⟩

/-! ## Checks -/

/-- The report is printed, one entry behind another. -/
theorem on_report (color : Bool) (options : CheckOptions) (outcomes : List DocumentOutcome) (console : Console) :
    (report color options outcomes).on console =
      (.ok (), { console with
        printed := console.printed ++ String.join (outcomes.map (DocumentOutcome.entry color options)) }) := by
  -- what has been printed by then goes along, so the console is any
  induction outcomes generalizing console with
  | nil =>
    rw [List.map_nil, String.join_nil, String.append_empty]
    rfl
  | cons o rest ih =>
    show (Run.print (o.entry color options) >>= fun _ => report color options rest).on console = _
    rw [Run.on_bind_ok (Run.on_print _ console), ih, List.map_cons, String.join_cons, String.append_assoc]

/-- **No command prints or writes a file before it fails.** -/
theorem Command.tacit_perform (color : Bool) (command : Command) : (command.perform color).Tacit := by
  cases command with
  | check options =>
    refine Run.silent_tree.bind_tacit fun tree => (Run.silent_attempt _).bind_tacit fun outcomes => ?_
    refine Run.tacit_of_total fun console => ⟨outcomes.all DocumentOutcome.passed, ?_⟩
    rw [Run.on_bind_ok (on_report color options outcomes console)]
    rfl
  | rust path root out =>
    refine Run.silent_tree.bind_tacit fun tree => (Run.silent_attempt _).bind_tacit fun schema => ?_
    exact (tacit_deliver out _).bind_pure true
  | jsonSchema path title out =>
    refine Run.silent_tree.bind_tacit fun tree => (Run.silent_attempt _).bind_tacit fun schema => ?_
    exact (tacit_deliver out _).bind_pure true
  | shape path =>
    refine Run.silent_tree.bind_tacit fun tree => (Run.silent_attempt _).bind_tacit fun schema => ?_
    exact Run.tacit_of_total fun _ => ⟨true, rfl⟩

/-- A check ends where its outcomes are not to be had, and else prints its report. -/
theorem on_perform_check (color : Bool) (options : CheckOptions) (console : Console) :
    ((Command.check options).perform color).on console =
      match checkOutcomes console.tree options with
      | .error trouble => (.error trouble, console)
      | .ok outcomes => (.ok (outcomes.all DocumentOutcome.passed), { console with
          printed := console.printed ++ String.join (outcomes.map (DocumentOutcome.entry color options)) }) := by
  rw [Command.perform, Run.on_bind_ok (Run.on_tree console)]
  have hattempt := Run.on_attempt (checkOutcomes console.tree options) console
  cases houtcomes : checkOutcomes console.tree options with
  | error trouble =>
    rw [houtcomes] at hattempt
    exact Run.on_bind_error hattempt _
  | ok outcomes =>
    rw [houtcomes] at hattempt
    rw [Run.on_bind_ok hattempt, Run.on_bind_ok (on_report color options outcomes console)]
    rfl

theorem Command.run_check_eq_error {tree : FileTree} {options : CheckOptions} {trouble : Trouble}
    (h : checkOutcomes tree options = .error trouble) (color : Bool) :
    Command.run tree color (.check options) = .error trouble := by
  have hfails : checkOutcomes (Console.over tree).tree options = .error trouble := h
  rw [Command.run, on_perform_check, hfails]

end JsonShape
