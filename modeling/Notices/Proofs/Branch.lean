import Notices.Proofs.Letter

/-!
# The branches of a dispatch

A dispatch reads the settings, looks whether the trigger is allowed, and then
runs a branch for each channel.  The two branches are one definition at two
channels, `Dispatch.branchOn`, and `dispatch_eq` says so.

* `World.settings?`, `World.template?` and `World.templateById?` are what the
  stores find, in every state.
* `World.addressed?` is what a branch finds out before it sends: a template and
  a recipient, or why there is nothing to send.
* `World.branchOn_quiet_or_delivers` says that a branch delivers one
  letter or calls no client.
* `World.dispatch_quiet_or_branches` says that a dispatch runs both
  branches or calls no client.
-/

namespace Notices

/-! ## What depends on the channel -/

namespace Channel

/-- The recipient that the options force on a channel. -/
def forced : Channel → SendOptions → Option String
  | .email, options => options.forceEmail
  | .sms, options => options.forcePhone

/-- The field of the data that names the customer on a channel. -/
def contactField : Channel → String
  | .email => "customer_email"
  | .sms => "customer_phone"

/-- What is reported on a channel if there is no recipient. -/
def noRecipient : Channel → SendError
  | .email => .noEmailAddress
  | .sms => .noPhoneNumber

/-- Whether a channel is tried. -/
def isWanted : Channel → Settings → SendOptions → Bool
  | .email => Dispatch.wantsEmail
  | .sms => Dispatch.wantsSms

end Channel

/-- The outcome of a dispatch on a channel. -/
def Dispatched.on (d : Dispatched) : Channel → Option Outcome
  | .email => d.email
  | .sms => d.sms

/-- Whether settings let a trigger send.  Only a trigger with a
switch can be kept from it. -/
def Settings.permits (settings : Settings) (trigger : String) : Bool :=
  (Trigger.ofWord? trigger).all settings.allows

namespace Dispatch

/-- Writes the letter of a template that was found, to a recipient that was, and
delivers it. -/
def post (channel : Channel) (context : Fields) (settings : Settings)
    (template : Template) (recipient : Value) : Program Outcome := do
  let letter ← template.letter? channel id settings context recipient
  letter.deliver template.id (Links.ofContext context)

/-- Sends a notice on a channel. -/
def sendOn (channel : Channel) (trigger : String) (context : Fields)
    (settings : Settings) (options : SendOptions) : Program Outcome := do
  match ← usableTemplate channel trigger with
  | none => return .failed .templateUnavailable
  | some template =>
    match recipient? (channel.forced options) context channel.contactField with
    | none => return .failed channel.noRecipient
    | some recipient => post channel context settings template recipient

/-- The branch of a dispatch on a channel. -/
def branchOn (channel : Channel) (trigger : String) (context : Fields)
    (settings : Settings) (options : SendOptions) : Program (Option Outcome) :=
  branch (channel.isWanted settings options)
    (sendOn channel trigger context settings options)

end Dispatch

namespace Dispatch

section Posting

variable {channel : Channel} {context : Fields} {settings : Settings}
    {template : Template}

/-- What can be written is posted as a letter. -/
theorem post_of_isFillable {recipient : Value}
    (hto : recipient.isWritable = true)
    (hfill : template.IsFillable channel context) :
    post channel context settings template recipient =
      (template.letter channel id settings context
        (String.ofList recipient.spell)).deliver
        template.id (Links.ofContext context) := by
  rw [post, Template.letter?_of_isFillable hto hfill]
  rfl

/-- What cannot be written is not posted. -/
theorem post_of_not_isFillable {recipient : Value}
    (h : ¬ (recipient.isWritable = true ∧
      template.IsFillable channel context)) :
    post channel context settings template recipient =
      .failed Value.tooLong := by
  rw [post, Template.letter?_of_not_isFillable h]
  rfl

/-- What is posted is a letter, or it cannot be written. -/
theorem post_cases (channel : Channel) (context : Fields) (settings : Settings)
    (template : Template) (recipient : Value) :
    (∃ l : Letter, l.channel = channel ∧
      post channel context settings template recipient =
        l.deliver template.id (Links.ofContext context)) ∨
    post channel context settings template recipient =
      .failed Value.tooLong := by
  unfold post
  rcases template.letter?_cases channel id settings context recipient with
    ⟨l, hchannel, hletter⟩ | hletter
  · exact Or.inl ⟨l, hchannel, by rw [hletter, pure_bind]⟩
  · exact Or.inr (by rw [hletter]; rfl)

/-- What is posted depends on the settings by the letter alone. -/
theorem post_congr {other : Settings} (recipient : Value)
    (h : ∀ address, template.letter channel id settings context address =
      template.letter channel id other context address) :
    post channel context settings template recipient =
      post channel context other template recipient := by
  by_cases hshort : recipient.isWritable = true ∧
    template.IsFillable channel context
  · rw [post_of_isFillable hshort.1 hshort.2,
      post_of_isFillable hshort.1 hshort.2, h]
  · rw [post_of_not_isFillable hshort, post_of_not_isFillable hshort]

end Posting

/-- The email branch is the one of the email channel. -/
theorem emailBranch_eq (trigger : String) (context : Fields)
    (settings : Settings) (options : SendOptions) :
    emailBranch trigger context settings options =
      branchOn .email trigger context settings options := by
  have hsend : byEmail trigger context settings options.forceEmail =
      sendOn .email trigger context settings options := by
    unfold byEmail sendOn
    refine congrArg (usableTemplate .email trigger >>= ·)
      (funext fun found => ?_)
    cases found with
    | none => rfl
    | some template =>
        dsimp only [Channel.forced, Channel.contactField]
        cases recipient? options.forceEmail context "customer_email" with
        | none => rfl
        | some recipient =>
            simp [post, Template.letter?, Notice.sendEmail_eq_deliver]
  unfold emailBranch branchOn
  rw [hsend]
  rfl

/-- The SMS branch is the one of the SMS channel. -/
theorem smsBranch_eq (trigger : String) (context : Fields) (settings : Settings)
    (options : SendOptions) :
    smsBranch trigger context settings options =
      branchOn .sms trigger context settings options := by
  have hsend : bySms trigger context options.forcePhone =
      sendOn .sms trigger context settings options := by
    unfold bySms sendOn
    refine congrArg (usableTemplate .sms trigger >>= ·) (funext fun found => ?_)
    cases found with
    | none => rfl
    | some template =>
        dsimp only [Channel.forced, Channel.contactField]
        cases recipient? options.forcePhone context "customer_phone" with
        | none => rfl
        | some recipient =>
            simp [post, Template.letter?, Notice.sendSms_eq_deliver]
  unfold smsBranch branchOn
  rw [hsend]
  rfl

end Dispatch

/-- A dispatch runs the same branch on both channels. -/
theorem dispatch_eq (trigger : String) (data : NoticeData)
    (options : SendOptions) :
    dispatch trigger data options = do
      match ← Program.call .settings with
      | none => return .bothFailed .noSettings
      | some settings =>
        if ← Dispatch.isAllowed settings trigger then
          let email ← Dispatch.branchOn .email trigger data.context
            settings options
          let sms ← Dispatch.branchOn .sms trigger data.context settings options
          return { email, sms }
        else return .bothFailed .triggerDisabled := by
  refine congrArg (Program.call .settings >>= ·) (funext fun found => ?_)
  cases found with
  | none => rfl
  | some settings =>
      dsimp only
      rw [Dispatch.emailBranch_eq, Dispatch.smsBranch_eq]

/-! ## What the stores find -/

namespace World

/-- The settings that the store finds. -/
def settings? (w : World) : Option Settings :=
  unlessOut w.outage.settings
    (Store.recordOf (Settings.read .notRecord) w.settings)

/-- The template that the store finds for a channel and a trigger. -/
def template? (w : World) (channel : Channel) (trigger : String) :
    Option Template :=
  unlessOut w.outage.templates
    (({ templates := w.templates } : Store).template? channel trigger)

/-- The template that the store finds by its id. -/
def templateById? (w : World) (id : String) : Option Template :=
  unlessOut w.outage.templates
    (({ templates := w.templates } : Store).templateById? id)

/-- What a collaborator finds, unless it is made to fail. -/
def unlessFault {α : Type} (fault : Option Failure) (found : α) :
    Except Failure α :=
  match fault with
  | some f => .error f
  | none => .ok found

/-- Reading the settings finds the same in every state, which it leaves as it
is. -/
theorem course_settings (w : World) (s : State) :
    w.course (Program.call .settings) s =
      ⟨unlessFault (w.faults .settings) w.settings?,
        [⟨.settings, unlessFault (w.faults .settings) w.settings?⟩], s⟩ := by
  have hanswer : w.answer s .settings =
      (unlessFault (w.faults .settings) w.settings?, s) := by
    cases h : w.faults .settings <;> simp [answer, collaborator?, h] <;> rfl
  rw [course_call, hanswer]
  rfl

/-- Reading a template finds the same in every state, which it leaves as it
is. -/
theorem course_template (w : World) (channel : Channel) (trigger : String)
    (s : State) :
    w.course (Program.call (.template channel trigger)) s =
      ⟨unlessFault (w.faults .template) (w.template? channel trigger),
        [⟨.template channel trigger,
          unlessFault (w.faults .template)
            (w.template? channel trigger)⟩], s⟩ := by
  have hanswer : w.answer s (.template channel trigger) =
      (unlessFault (w.faults .template) (w.template? channel trigger), s) := by
    cases h : w.faults .template <;> simp [answer, collaborator?, h] <;> rfl
  rw [course_call, hanswer]
  rfl

/-- Reading a template by its id finds the same in every state,
which it leaves as it is. -/
theorem course_templateById (w : World) (id : String) (s : State) :
    w.course (Program.call (.templateById id)) s =
      ⟨unlessFault (w.faults .templateById) (w.templateById? id),
        [⟨.templateById id,
          unlessFault (w.faults .templateById) (w.templateById? id)⟩], s⟩ := by
  have hanswer : w.answer s (.templateById id) =
      (unlessFault (w.faults .templateById) (w.templateById? id), s) := by
    cases h : w.faults .templateById <;> simp [answer, collaborator?, h] <;> rfl
  rw [course_call, hanswer]
  rfl

/-! ## The course of a branch -/

/-- What a branch finds out before it sends: a template and a recipient, or why
there is nothing to send. -/
def addressed? (w : World) (channel : Channel) (trigger : String)
    (context : Fields) (options : SendOptions) :
    Except SendError (Template × Value) :=
  match (w.template? channel trigger).filter (·.enabled) with
  | none => .error .templateUnavailable
  | some template =>
    match Dispatch.recipient? (channel.forced options) context
      channel.contactField with
    | none => .error channel.noRecipient
    | some recipient => .ok (template, recipient)

variable {channel : Channel} {trigger : String} {context : Fields}
    {settings : Settings}
  {options : SendOptions}

/-- A branch that has something to send has found its template. -/
theorem template?_of_addressed {w : World} {template : Template}
    {recipient : Value}
    (hfound : w.addressed? channel trigger context options =
      .ok (template, recipient)) :
    w.template? channel trigger = some template := by
  unfold addressed? at hfound
  split at hfound
  · cases hfound
  · next found hsome =>
    split at hfound
    · cases hfound
    · obtain rfl := (Prod.mk.inj (Except.ok.inj hfound)).1
      exact (Option.filter_eq_some_iff.mp hsome).1

/-- A branch whose template is not read asks nothing else. -/
theorem course_sendOn_of_fault {w : World} {f : Failure}
    (hfault : w.faults .template = some f) (s : State) :
    w.course (Dispatch.sendOn channel trigger context settings options) s =
      ⟨.error f, [⟨.template channel trigger, .error f⟩], s⟩ := by
  unfold Dispatch.sendOn Dispatch.usableTemplate
  rw [course_bind, course_bind, course_template, hfault]
  rfl

/-- A branch reads its template, and if it finds nothing to send that is its
outcome. -/
theorem course_sendOn_of_error {w : World} {cause : SendError}
    (htemplate : w.faults .template = none)
    (hfound : w.addressed? channel trigger context options = .error cause)
    (s : State) :
    w.course (Dispatch.sendOn channel trigger context settings options) s =
      ⟨.ok (.failed cause),
        [⟨.template channel trigger, .ok (w.template? channel trigger)⟩],
        s⟩ := by
  unfold addressed? at hfound
  unfold Dispatch.sendOn Dispatch.usableTemplate
  rw [course_bind, course_bind, course_template, htemplate]
  simp only [unlessFault, Course.andThen_ok, course_pure]
  cases hread : (w.template? channel trigger).filter (·.enabled) with
  | none =>
      rw [hread] at hfound
      obtain rfl := Except.error.inj hfound
      rfl
  | some template =>
      rw [hread] at hfound
      cases hto : Dispatch.recipient? (channel.forced options) context
        channel.contactField with
      | none =>
          simp only [hto] at hfound ⊢
          obtain rfl := Except.error.inj hfound
          rfl
      | some recipient => simp [hto] at hfound

/-- A branch reads its template and posts what is to be sent. -/
theorem course_sendOn_of_ok {w : World} {template : Template}
    {recipient : Value} (htemplate : w.faults .template = none)
    (hfound : w.addressed? channel trigger context options =
      .ok (template, recipient))
    (s : State) :
    let posted :=
      w.course (Dispatch.post channel context settings template recipient) s
    w.course (Dispatch.sendOn channel trigger context settings options) s =
      { posted with exchanges :=
          ⟨.template channel trigger, .ok (w.template? channel trigger)⟩ ::
            posted.exchanges } := by
  unfold addressed? at hfound
  unfold Dispatch.sendOn Dispatch.usableTemplate
  rw [course_bind, course_bind, course_template, htemplate]
  simp only [unlessFault, Course.andThen_ok, course_pure]
  cases hread : (w.template? channel trigger).filter (·.enabled) with
  | none => simp [hread] at hfound
  | some found =>
      cases hto : Dispatch.recipient? (channel.forced options) context
        channel.contactField with
      | none => simp [hread, hto] at hfound
      | some addressee =>
          simp only [hread, hto, Except.ok.injEq, Prod.mk.injEq] at hfound
          obtain ⟨rfl, rfl⟩ := hfound
          simp

/-- A branch that is wanted ends with what it came to, a failure included, and
another asks nothing. -/
theorem course_branchOn (w : World) (s : State) :
    w.course (Dispatch.branchOn channel trigger context settings options) s =
      if channel.isWanted settings options then
        let sent :=
          w.course (Dispatch.sendOn channel trigger context settings options) s
        ⟨.ok (some (Notice.outcomeOf sent.result)), sent.exchanges, sent.after⟩
      else ⟨.ok none, [], s⟩ := by
  unfold Dispatch.branchOn Dispatch.branch
  by_cases hwanted : channel.isWanted settings options = true
  · rw [if_pos hwanted, if_pos hwanted, course_bind, course_attempt]
    simp
  · rw [if_neg hwanted, if_neg hwanted, course_pure]

/-- A branch never fails. -/
theorem result_branchOn (w : World) (channel : Channel) (trigger : String)
    (context : Fields) (settings : Settings) (options : SendOptions)
    (s : State) :
    ∃ outcome,
      (w.course (Dispatch.branchOn channel trigger context settings options)
        s).result =
        .ok outcome := by
  rw [course_branchOn]
  split
  · exact ⟨_, rfl⟩
  · exact ⟨_, rfl⟩

/-- A branch that is not wanted calls no client and comes to nothing. -/
theorem branchOn_unwanted (w : World) (trigger : String) (context : Fields)
    (hwanted : channel.isWanted settings options = false) (s : State) :
    let branch :=
      w.course (Dispatch.branchOn channel trigger context settings options) s
    branch.result = .ok none ∧ branch.calls = [] := by
  intro branch
  have hcourse : branch = ⟨.ok none, [], s⟩ := by
    simp only [branch]
    rw [course_branchOn, if_neg (by simp [hwanted])]
  rw [hcourse]
  exact ⟨rfl, rfl⟩

/-- A branch that finds nothing to send calls no client and says why. -/
theorem branchOn_unaddressed {w : World} {cause : SendError}
    (htemplate : w.faults .template = none)
    (hwanted : channel.isWanted settings options = true)
    (hfound : w.addressed? channel trigger context options = .error cause)
    (s : State) :
    let branch :=
      w.course (Dispatch.branchOn channel trigger context settings options) s
    branch.result = .ok (some (.failed cause)) ∧ branch.calls = [] := by
  intro branch
  simp only [branch]
  rw [course_branchOn, if_pos hwanted, course_sendOn_of_error htemplate hfound]
  exact ⟨rfl, rfl⟩

/-- A branch that finds what to send does what posting that does. -/
theorem branchOn_posts {w : World} {template : Template} {recipient : Value}
    (htemplate : w.faults .template = none)
    (hwanted : channel.isWanted settings options = true)
    (hfound : w.addressed? channel trigger context options =
      .ok (template, recipient))
    (s : State) :
    let posted :=
      w.course (Dispatch.post channel context settings template recipient) s
    let branch :=
      w.course (Dispatch.branchOn channel trigger context settings options) s
    branch.result = .ok (some (Notice.outcomeOf posted.result)) ∧
      branch.calls = posted.calls ∧
      branch.after = posted.after := by
  intro posted branch
  simp only [branch]
  rw [course_branchOn, if_pos hwanted, course_sendOn_of_ok htemplate hfound]
  refine ⟨rfl, ?_, rfl⟩
  unfold Course.calls
  exact List.filterMap_cons_none rfl

/-- A branch that has a letter to send does what the delivery of that letter
does. -/
theorem branchOn_delivers {w : World} {template : Template} {recipient : Value}
    (htemplate : w.faults .template = none)
    (hwanted : channel.isWanted settings options = true)
    (hfound : w.addressed? channel trigger context options =
      .ok (template, recipient))
    (hto : recipient.isWritable = true)
    (hfill : template.IsFillable channel context) (s : State) :
    let delivery := w.course
      ((template.letter channel id settings context
        (String.ofList recipient.spell)).deliver
        template.id (Links.ofContext context)) s
    let branch :=
      w.course (Dispatch.branchOn channel trigger context settings options) s
    branch.result = .ok (some (Notice.outcomeOf delivery.result)) ∧
      branch.calls = delivery.calls ∧
      branch.after = delivery.after := by
  rw [← Dispatch.post_of_isFillable hto hfill]
  exact branchOn_posts htemplate hwanted hfound s

/-- A branch that finds what to send, but cannot write it, calls no client and
says so. -/
theorem branchOn_unwritten {w : World} {template : Template} {recipient : Value}
    (htemplate : w.faults .template = none)
    (hwanted : channel.isWanted settings options = true)
    (hfound : w.addressed? channel trigger context options =
      .ok (template, recipient))
    (hlong :
      ¬ (recipient.isWritable = true ∧ template.IsFillable channel context))
    (s : State) :
    let branch :=
      w.course (Dispatch.branchOn channel trigger context settings options) s
    branch.result = .ok (some (.failed (.raised Value.tooLong))) ∧
      branch.calls = [] ∧
      branch.after = s := by
  intro branch
  have hposts := branchOn_posts htemplate hwanted hfound s
  rw [Dispatch.post_of_not_isFillable hlong, course_failed] at hposts
  exact hposts

/-- A branch that has a letter to send calls the client with that letter,
once. -/
theorem branchOn_addressed {w : World} {template : Template} {recipient : Value}
    (htemplate : w.faults .template = none)
    (hwanted : channel.isWanted settings options = true)
    (hfound : w.addressed? channel trigger context options =
      .ok (template, recipient))
    (hto : recipient.isWritable = true)
    (hfill : template.IsFillable channel context) (s : State) :
    ∃ answer,
      (w.course (Dispatch.branchOn channel trigger context settings options)
        s).calls =
        [⟨template.letter channel id settings context
          (String.ofList recipient.spell), answer⟩] := by
  obtain ⟨-, hcalls, -⟩ :=
    branchOn_delivers htemplate hwanted hfound hto hfill s
  rw [hcalls, calls_deliver]
  exact ⟨_, rfl⟩

/-- A branch that finds a template delivers a letter that is written by it, and
any other calls no client and leaves the state as it is.  A branch whose letter
cannot be written is one of the others. -/
theorem branchOn_quiet_or_delivers (w : World) (channel : Channel)
    (trigger : String) (context : Fields) (settings : Settings)
    (options : SendOptions) (s : State) :
    let branch :=
      w.course (Dispatch.branchOn channel trigger context settings options) s
    (branch.calls = [] ∧ branch.after = s) ∨
      ∃ template recipient, w.template? channel trigger = some template ∧
        let delivery :=
          w.course
            ((template.letter channel id settings context recipient).deliver
          template.id (Links.ofContext context)) s
        branch.result = .ok (some (Notice.outcomeOf delivery.result)) ∧
          branch.calls = delivery.calls ∧ branch.after = delivery.after := by
  intro branch
  by_cases hwanted : channel.isWanted settings options = true
  · cases hfault : w.faults .template with
    | some f =>
        left
        simp only [branch]
        rw [course_branchOn, if_pos hwanted, course_sendOn_of_fault hfault]
        exact ⟨rfl, rfl⟩
    | none =>
        cases hfound : w.addressed? channel trigger context options with
        | error cause =>
            left
            simp only [branch]
            rw [course_branchOn, if_pos hwanted,
              course_sendOn_of_error hfault hfound]
            exact ⟨rfl, rfl⟩
        | ok found =>
            obtain ⟨template, recipient⟩ := found
            by_cases hlong : recipient.isWritable = true ∧
              template.IsFillable channel context
            · exact Or.inr ⟨template, _, template?_of_addressed hfound,
                branchOn_delivers hfault hwanted hfound hlong.1 hlong.2 s⟩
            · exact Or.inl (branchOn_unwritten hfault hwanted hfound hlong s).2
  · left
    simp only [branch]
    rw [course_branchOn, if_neg hwanted]
    exact ⟨rfl, rfl⟩

/-- A branch calls at most one client, that of its channel. -/
theorem calls_branchOn (w : World) (s : State) :
    let branch :=
      w.course (Dispatch.branchOn channel trigger context settings options) s
    branch.calls = [] ∨
      ∃ call, branch.calls = [call] ∧ call.letter.channel = channel := by
  intro branch
  rcases w.branchOn_quiet_or_delivers channel trigger context settings
    options s with
    ⟨hquiet, -⟩ | ⟨template, recipient, -, -, hcalls, -⟩
  · exact Or.inl hquiet
  · rw [calls_deliver] at hcalls
    exact Or.inr ⟨_, hcalls, Template.channel_letter ..⟩

/-- The channels of the calls of a branch are its own, once at most. -/
theorem channels_branchOn (w : World) (s : State) :
    ((w.course (Dispatch.branchOn channel trigger context settings options)
      s).calls.map
      (·.letter.channel)).Sublist [channel] := by
  rcases w.calls_branchOn s with hquiet | ⟨call, hcall, hchannel⟩
  · rw [hquiet]
    exact List.nil_sublist _
  · simp [hcall, hchannel]

/-- The calls of a branch on its own channel are all its calls, and on the
other one there are none. -/
theorem callsOn_branchOn (w : World) (s : State) (other : Channel) :
    let branch :=
      w.course (Dispatch.branchOn channel trigger context settings options) s
    branch.callsOn other = if channel = other then branch.calls else [] := by
  intro branch
  unfold Course.callsOn
  rcases w.calls_branchOn s with hquiet | ⟨call, hcall, hchannel⟩
  · simp only [branch]
    rw [hquiet]
    simp
  · simp only [branch]
    rw [hcall, List.filter_cons, hchannel]
    simp

/-- Whether a trigger is allowed is known without a client and
leaves the log as it is. -/
theorem course_isAllowed (w : World) (settings : Settings) (trigger : String)
    (s : State) :
    ∃ hooked after,
      w.course (Dispatch.isAllowed settings trigger) s =
        ⟨.ok (settings.permits trigger), hooked, after⟩ ∧
      hooked.filterMap Exchange.clientCall? = [] ∧ after.log = s.log := by
  unfold Dispatch.isAllowed Settings.permits
  cases Trigger.ofWord? trigger with
  | some t => exact ⟨[], s, by simp, rfl, rfl⟩
  | none =>
      refine ⟨[⟨.unknownTrigger trigger,
        (w.answer s (.unknownTrigger trigger)).1⟩],
        (w.answer s (.unknownTrigger trigger)).2, ?_, rfl, ?_⟩
      · simp only [course_bind, course_attempt]
        rw [course_call]
        rfl
      · exact w.log_answer_of_ne s (by simp)

/-! ## The course of a dispatch -/

variable (trigger : String) (data : NoticeData) (options : SendOptions)

/-- A dispatch whose settings are not read fails with that and asks nothing
else. -/
theorem course_dispatch_of_fault {w : World} {f : Failure}
    (hfault : w.faults .settings = some f) (s : State) :
    w.course (dispatch trigger data options) s =
      ⟨.error f, [⟨.settings, .error f⟩], s⟩ := by
  rw [dispatch_eq, course_bind, course_settings, hfault]
  rfl

/-- A dispatch without settings is over when they are read. -/
theorem course_dispatch_unset {w : World} (hfault : w.faults .settings = none)
    (hunset : w.settings? = none) (s : State) :
    w.course (dispatch trigger data options) s =
      ⟨.ok (.bothFailed .noSettings), [⟨.settings, .ok none⟩], s⟩ := by
  rw [dispatch_eq, course_bind, course_settings, hfault, hunset]
  rfl

/-- A dispatch of a trigger that is switched off is over when the settings are
read. -/
theorem course_dispatch_forbidden {w : World}
    (hfault : w.faults .settings = none) (hset : w.settings? = some settings)
    (hpermits : settings.permits trigger = false) (s : State) :
    w.course (dispatch trigger data options) s =
      ⟨.ok (.bothFailed .triggerDisabled),
        [⟨.settings, .ok (some settings)⟩], s⟩ := by
  rw [dispatch_eq, course_bind, course_settings, hfault, hset]
  unfold Settings.permits at hpermits
  cases hword : Trigger.ofWord? trigger with
  | none => simp [hword] at hpermits
  | some t =>
      have hoff : settings.allows t = false := by simpa [hword] using hpermits
      simp [unlessFault, Dispatch.isAllowed, hword, hoff]

/-- A dispatch of a trigger that is permitted runs the branch of the email
channel and then that of the SMS channel.  It calls the clients that they call,
and it comes to what they come to. -/
theorem course_dispatch_permitted {w : World}
    (hfault : w.faults .settings = none) (hset : w.settings? = some settings)
    (hpermits : settings.permits trigger = true) (s : State) :
    ∃ start email sms,
      let first :=
        w.course
          (Dispatch.branchOn .email trigger data.context settings options) start
      let second :=
        w.course (Dispatch.branchOn .sms trigger data.context settings options)
          first.after
      let whole := w.course (dispatch trigger data options) s
      start.log = s.log ∧ first.result = .ok email ∧ second.result = .ok sms ∧
      whole.result = .ok { email, sms } ∧
      whole.calls = first.calls ++ second.calls ∧
      whole.after = second.after := by
  obtain ⟨hooked, start, hallowed, hquiet, hlog⟩ :=
    w.course_isAllowed settings trigger s
  let first :=
    w.course
      (Dispatch.branchOn .email trigger data.context settings options) start
  let second :=
    w.course (Dispatch.branchOn .sms trigger data.context settings options)
      first.after
  obtain ⟨email, hemail⟩ :=
    w.result_branchOn .email trigger data.context settings options start
  obtain ⟨sms, hsms⟩ :=
    w.result_branchOn .sms trigger data.context settings options first.after
  have hwhole : w.course (dispatch trigger data options) s =
      ⟨.ok { email, sms },
        ⟨.settings, .ok (some settings)⟩ ::
          (hooked ++ (first.exchanges ++ second.exchanges)),
        second.after⟩ := by
    rw [dispatch_eq, course_bind, course_settings, hfault, hset, unlessFault,
      Course.andThen_ok]
    rw [course_bind, hallowed, hpermits, Course.andThen_ok, if_pos rfl]
    rw [course_bind, Course.andThen_of_ok hemail, course_bind,
      Course.andThen_of_ok hsms, course_pure]
    simp [first, second]
  refine ⟨start, email, sms, hlog, hemail, hsms, ?_⟩
  rw [hwhole]
  refine ⟨rfl, ?_, rfl⟩
  unfold Course.calls
  rw [List.filterMap_cons_none rfl, List.filterMap_append, hquiet,
    List.filterMap_append]
  rfl

/-- A dispatch runs both branches, or it calls no client and leaves the state as
it is. -/
theorem dispatch_quiet_or_branches (w : World) (trigger : String)
    (data : NoticeData) (options : SendOptions) (s : State) :
    let whole := w.course (dispatch trigger data options) s
    (whole.calls = [] ∧ whole.after = s) ∨
      ∃ settings start email sms,
        let first :=
          w.course
            (Dispatch.branchOn .email trigger data.context settings options)
              start
        let second :=
          w.course
            (Dispatch.branchOn .sms trigger data.context settings options)
              first.after
        w.settings? = some settings ∧ start.log = s.log ∧
          first.result = .ok email ∧
          second.result = .ok sms ∧ whole.result = .ok { email, sms } ∧
          whole.calls = first.calls ++ second.calls ∧
            whole.after = second.after := by
  intro whole
  cases hfault : w.faults .settings with
  | some f =>
      left
      simp only [whole]
      rw [course_dispatch_of_fault trigger data options hfault]
      exact ⟨rfl, rfl⟩
  | none =>
      cases hset : w.settings? with
      | none =>
          left
          simp only [whole]
          rw [course_dispatch_unset trigger data options hfault hset]
          exact ⟨rfl, rfl⟩
      | some settings =>
          cases hpermits : settings.permits trigger with
          | false =>
              left
              simp only [whole]
              rw [course_dispatch_forbidden trigger data options hfault
                hset hpermits]
              exact ⟨rfl, rfl⟩
          | true =>
              obtain ⟨start, email, sms, hbranches⟩ :=
                course_dispatch_permitted trigger data options hfault hset
                  hpermits s
              exact Or.inr ⟨settings, start, email, sms, rfl, hbranches⟩

/-- What a permitted dispatch does on a channel is what the branch
of that channel does. -/
theorem dispatch_on_of_permitted {w : World}
    (hfault : w.faults .settings = none) (hset : w.settings? = some settings)
    (hpermits : settings.permits trigger = true) (s : State)
    (channel : Channel) :
    ∃ before dispatched,
      let branch :=
        w.course
          (Dispatch.branchOn channel trigger data.context settings options)
            before
      let whole := w.course (dispatch trigger data options) s
      whole.result = .ok dispatched ∧
      branch.result = .ok (dispatched.on channel) ∧
      whole.callsOn channel = branch.calls := by
  obtain ⟨start, email, sms, _, hemail, hsms, hresult, hcalls, _⟩ :=
    course_dispatch_permitted trigger data options hfault hset hpermits s
  let first :=
    w.course
      (Dispatch.branchOn .email trigger data.context settings options) start
  let second :=
    w.course (Dispatch.branchOn .sms trigger data.context settings options)
      first.after
  have hsplit : (w.course (dispatch trigger data options) s).callsOn channel =
      first.callsOn channel ++ second.callsOn channel := by
    unfold Course.callsOn
    rw [hcalls, List.filter_append]
  cases channel with
  | email =>
      refine ⟨start, { email, sms }, hresult, hemail, ?_⟩
      rw [hsplit, callsOn_branchOn, callsOn_branchOn]
      simp
  | sms =>
      refine ⟨first.after, { email, sms }, hresult, hsms, ?_⟩
      rw [hsplit, callsOn_branchOn, callsOn_branchOn]
      simp

end World

end Notices
