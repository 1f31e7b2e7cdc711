import Mathlib.Data.List.DropRight
import SignIn.LoginForm

/-!
# What a form remembers

A form is used by entering and typing texts, closing its dialog, presenting the fields and taking
outcomes in. What it holds after any of these in any order follows from the actions alone. A field
holds the text that was last entered and what was typed after it. The dialog depends on the last
action that did not close it: it is there only after a failure, and gone once it was closed
(`LoginForm.after_actions`).
-/

namespace SignIn

namespace LoginForm

inductive Field
  | username
  | password
  deriving DecidableEq, Repr

namespace Field

def text : Field → LoginForm → String
  | username, form => form.username
  | password, form => form.password

def enter : Field → LoginForm → String → LoginForm
  | username => setUsername
  | password => setPassword

def append : Field → LoginForm → String → LoginForm
  | username => typeUsername
  | password => typePassword

end Field

/-- What can be done with a form. Its fields are presented to who answers to credentials, on a state
of its own. -/
inductive Action (σ : Type)
  | enter (field : Field) (text : String)
  | type (field : Field) (text : String)
  | dismiss
  | submit (validate : Login → Attempt σ SignInAnswer)
  | apply (outcome : Except AuthError SignInAnswer)

namespace Action

variable {σ : Type}

/-- Acts on a form, and gives the session that was handed out. -/
def act (form : LoginForm) (state : σ) : Action σ → (Option IssuedSession × LoginForm) × σ
  | enter field text => ((none, field.enter form text), state)
  | type field text => ((none, field.append form text), state)
  | dismiss => ((none, form.dismiss), state)
  | submit validate =>
    let (outcome, state) := (validate form.login).perform state
    (form.apply outcome, state)
  | apply outcome => (form.apply outcome, state)

def IsEdit : Action σ → Prop
  | enter _ _ | type _ _ => True
  | dismiss | submit _ | apply _ => False

def IsDismissal : Action σ → Prop
  | dismiss => True
  | enter _ _ | type _ _ | submit _ | apply _ => False

/-- The outcome that an action takes in where these credentials are in the fields. -/
def outcome? (login : Login) (state : σ) : Action σ → Option (Except AuthError SignInAnswer)
  | submit validate => some ((validate login).perform state).1
  | apply outcome => some outcome
  | enter _ _ | type _ _ | dismiss => none

def entered? (field : Field) : Action σ → Option String
  | enter other text => if other = field then some text else none
  | type _ _ | dismiss | submit _ | apply _ => none

def typed? (field : Field) : Action σ → Option String
  | type other text => if other = field then some text else none
  | enter _ _ | dismiss | submit _ | apply _ => none

end Action

variable {σ : Type}

/-- A fresh form and a state after actions. -/
def after (actions : List (Action σ)) (state : σ) : LoginForm × σ :=
  actions.foldl (fun (form, state) action =>
    ((action.act form state).1.2, (action.act form state).2)) (empty, state)

/-- The last text that was entered into a field, and all that was typed into it since. -/
def fieldOf (actions : List (Action σ)) (field : Field) : String :=
  (actions.filterMap (Action.entered? field)).getLast?.getD "" ++
    String.join ((actions.rtakeWhile fun action => (action.entered? field).isNone).filterMap
      (Action.typed? field))

/-- The credentials that actions put into the fields. -/
def loginOf (actions : List (Action σ)) : Login :=
  ⟨fieldOf actions .username, fieldOf actions .password⟩

/-- The dialog after an action that took in this outcome, or none, and so many dismissals. -/
def dialogOf (dismissals : Nat) : Option (Except AuthError SignInAnswer) → Dialog
  | none | some (.ok (.authenticated _)) => .hidden
  | some (.ok (.rejected _)) =>
    if dismissals = 0 then .shown "Error" "Incorrect username or password." else .dismissed
  | some (.error _) => if dismissals = 0 then .shown "Error" "Server error" else .dismissed

section Texts

variable (actions : List (Action σ)) (action : Action σ) (field : Field)

theorem fieldOf_enter (text : String) :
    fieldOf (actions ++ [.enter field text]) field = text := by
  simp [fieldOf, Action.entered?, List.filterMap_append]

theorem fieldOf_of_not_entered (h : action.entered? field = none) :
    fieldOf (actions ++ [action]) field =
      fieldOf actions field ++ (action.typed? field).getD "" := by
  unfold fieldOf
  rw [List.rtakeWhile_concat_pos _ _ _ (by simp [h])]
  rcases typed : action.typed? field with _ | text <;>
    simp [List.filterMap_append, h, typed, String.append_assoc]

theorem text_enter (form : LoginForm) (other : Field) (text : String) :
    field.text (other.enter form text) = if other = field then text else field.text form := by
  cases field <;> cases other <;> rfl

theorem text_append (form : LoginForm) (other : Field) (text : String) :
    field.text (other.append form text) =
      if other = field then field.text form ++ text else field.text form := by
  cases field <;> cases other <;> rfl

theorem text_of_login {form other : LoginForm} (h : form.login = other.login) :
    field.text form = field.text other := by
  cases field
  · exact congrArg Login.username h
  · exact congrArg Login.password h

theorem login_dismiss (form : LoginForm) : form.dismiss.login = form.login := by
  unfold dismiss
  split <;> rfl

theorem login_act_of_not_edit {form : LoginForm} {state : σ} (h : ¬action.IsEdit) :
    (action.act form state).1.2.login = form.login := by
  cases action with
  | enter | type => exact absurd trivial h
  | dismiss => exact login_dismiss form
  | submit | apply => rfl

theorem fieldOf_of_not_edit (h : ¬action.IsEdit) :
    fieldOf (actions ++ [action]) field = fieldOf actions field := by
  cases action with
  | enter | type => exact absurd trivial h
  | dismiss | submit | apply =>
    rw [fieldOf_of_not_entered _ _ _ rfl]
    exact String.append_empty

/-- An action does to a field what it adds to the actions before it. -/
theorem text_act {form : LoginForm} (state : σ) (h : field.text form = fieldOf actions field) :
    field.text (action.act form state).1.2 = fieldOf (actions ++ [action]) field := by
  by_cases edit : action.IsEdit
  · cases action with
    | enter other text =>
      change field.text (other.enter form text) = _
      rw [text_enter]
      split_ifs with same
      · rw [same, fieldOf_enter]
      · rw [fieldOf_of_not_entered _ _ _ (by simp [Action.entered?, same]), h]
        simp [Action.typed?]
    | type other text =>
      change field.text (other.append form text) = _
      rw [text_append, fieldOf_of_not_entered _ _ _ rfl, h]
      split_ifs with same <;> simp [Action.typed?, same]
    | dismiss | submit | apply => cases edit
  · rw [fieldOf_of_not_edit _ _ _ edit, ← h]
    exact text_of_login field (login_act_of_not_edit action edit)

end Texts

theorem after_concat (actions : List (Action σ)) (action : Action σ) (state : σ) :
    after (actions ++ [action]) state =
      ((action.act (after actions state).1 (after actions state).2).1.2,
        (action.act (after actions state).1 (after actions state).2).2) := by
  simp [after]

theorem text_after (actions : List (Action σ)) (state : σ) (field : Field) :
    field.text (after actions state).1 = fieldOf actions field := by
  induction actions using List.reverseRecOn with
  | nil => cases field <;> rfl
  | append_singleton actions action ih =>
    rw [after_concat]
    exact text_act actions action field _ ih

theorem login_after (actions : List (Action σ)) (state : σ) :
    (after actions state).1.login = loginOf actions := by
  have username := text_after actions state .username
  have password := text_after actions state .password
  exact congrArg₂ Login.mk username password

section Dialogs

variable (form : LoginForm) (state : σ)

theorem dialogAfter_eq (outcome : Except AuthError SignInAnswer) :
    dialogAfter outcome = dialogOf 0 (some outcome) := by
  rcases outcome with error | issued | ⟨⟨⟩⟩ <;> rfl

theorem dialog_act {action : Action σ} (h : ¬action.IsDismissal) :
    (action.act form state).1.2.dialog = dialogOf 0 (action.outcome? form.login state) := by
  cases action with
  | enter field | type field => cases field <;> rfl
  | dismiss => exact absurd trivial h
  | submit | apply => exact dialogAfter_eq _

theorem dialog_dismiss {n : Nat} {outcome? : Option (Except AuthError SignInAnswer)}
    (h : form.dialog = dialogOf n outcome?) : form.dismiss.dialog = dialogOf (n + 1) outcome? := by
  unfold dismiss isDialogVisible
  rw [h]
  rcases outcome? with _ | error | issued | reason <;> by_cases first : n = 0 <;>
    simp [dialogOf, first, h]

/-- What the dialog owes to the last action that was no dismissal. -/
theorem dialog_after (actions : List (Action σ)) :
    (∃ n, actions = .replicate n .dismiss ∧ (after actions state).1.dialog = .hidden) ∨
      ∃ before action n, actions = before ++ action :: .replicate n .dismiss ∧
        ¬action.IsDismissal ∧ (after actions state).1.dialog =
          dialogOf n (action.outcome? (loginOf before) (after before state).2) := by
  induction actions using List.reverseRecOn with
  | nil => exact .inl ⟨0, rfl, rfl⟩
  | append_singleton actions last ih =>
    rw [after_concat]
    by_cases closes : last.IsDismissal
    · cases last with
      | enter | type | submit | apply => cases closes
      | dismiss =>
        rcases ih with ⟨n, rfl, hidden⟩ | ⟨before, action, n, rfl, other, shown⟩
        · have unseen : (after (.replicate n .dismiss) state).1.dialog = dialogOf n none := hidden
          exact .inl ⟨n + 1, List.replicate_succ'.symm, dialog_dismiss _ unseen⟩
        · refine .inr ⟨before, action, n + 1, ?_, other, dialog_dismiss _ shown⟩
          rw [List.replicate_succ', List.append_assoc, List.cons_append]
    · refine .inr ⟨actions, last, 0, rfl, closes, ?_⟩
      rw [dialog_act _ _ closes, login_after]

theorem issuedBy_eq_some {outcome : Except AuthError SignInAnswer} {issued : IssuedSession} :
    issuedBy outcome = some issued ↔ outcome = .ok (.authenticated issued) := by
  rcases outcome with error | given | reason <;> simp [issuedBy]

theorem given_act (action : Action σ) (issued : IssuedSession) :
    (action.act form state).1.1 = some issued ↔
      action.outcome? form.login state = some (.ok (.authenticated issued)) := by
  cases action with
  | enter | type | dismiss => simp [Action.act, Action.outcome?]
  | submit | apply => simp [Action.act, Action.outcome?, apply, issuedBy_eq_some]

theorem isDialogVisible_act {action : Action σ} (closed : form.dialog = .dismissed) :
    (action.act form state).1.2.isDialogVisible = true ↔
      ∃ outcome, action.outcome? form.login state = some outcome ∧
        ∀ issued, outcome ≠ .ok (.authenticated issued) := by
  by_cases closes : action.IsDismissal
  · cases action with
    | enter | type | submit | apply => cases closes
    | dismiss => simp [Action.act, Action.outcome?, dismiss, isDialogVisible, closed]
  · unfold isDialogVisible
    rw [dialog_act form state closes]
    rcases action.outcome? form.login state with _ | error | issued | reason <;> simp [dialogOf]

end Dialogs

/-- A form after any actions, from an empty one. Its fields hold the texts of these actions. Its
dialog is that of the last action which was not a dismissal: hidden after an edit or a session, and
after a failure shown or, if it was dismissed since, dismissed. Whatever is done next, only an edit
changes the fields, a session is given exactly if the outcome is one, and a dismissed dialog is
brought back exactly by an outcome that is none. Who answers to credentials is asked once, for those
in the fields, and so is the service. -/
theorem after_actions (actions : List (Action σ)) (start : σ) :
    let form := (after actions start).1
    let state := (after actions start).2
    let login := loginOf actions
    form.login = login ∧
      ((∃ n, actions = .replicate n .dismiss ∧ form.dialog = .hidden) ∨
        ∃ before action n, actions = before ++ action :: .replicate n .dismiss ∧
          ¬action.IsDismissal ∧
          form.dialog = dialogOf n (action.outcome? (loginOf before) (after before start).2)) ∧
      (∀ action : Action σ,
        let acted := action.act form state
        (¬action.IsEdit → acted.1.2.login = login) ∧
          (∀ issued, acted.1.1 = some issued ↔
            action.outcome? login state = some (.ok (.authenticated issued))) ∧
          (form.dialog = .dismissed → (acted.1.2.isDialogVisible = true ↔
            ∃ outcome, action.outcome? login state = some outcome ∧
              ∀ issued, outcome ≠ .ok (.authenticated issued)))) ∧
      (∀ validate : Login → Attempt σ SignInAnswer,
        let answered := (validate login).perform state
        (Action.submit validate).act form state = (form.apply answered.1, answered.2)) ∧
      ∀ {ρ : Type} (service : Service ρ) (draw : Draw) (form : LoginForm) (s : Service.State ρ),
        form.submit service draw s = (Action.submit (service.signIn draw)).act form s := by
  intro form state login
  have fields : form.login = login := login_after actions start
  refine ⟨fields, dialog_after start actions, fun action => ?next, fun validate => ?submit,
    fun _ _ _ _ => rfl⟩
  case next =>
    refine ⟨fun still => (login_act_of_not_edit action still).trans fields, fun issued => ?_,
      fun closed => ?_⟩
    · rw [← fields]
      exact given_act form state action issued
    · rw [← fields]
      exact isDialogVisible_act form state closed
  case submit =>
    rw [← fields]
    rfl

/-- A dialog that was dismissed stays away while the name is typed on. -/
example : (after [.type .username "WRONG", .apply (.ok (.rejected .invalid)), .dismiss,
    .type .username "_CHANGED"] ()).1 = ⟨"WRONG_CHANGED", "", .hidden⟩ := rfl

end LoginForm

end SignIn
