import DualToken.Proofs.Crypto.PasswordHash
import DualToken.Proofs.Http.Registration
import DualToken.Proofs.Service.Success

/-!
# Which passwords log in

Behind a registration the row of the new user stays as it is through all requests, and its email is
found at this row alone. So a login with this email is decided by the hash in the row: it succeeds
with every password that has the same digest as the registered one, and with no other
(`login_after_registration`).

The digest depends on the first seventy-two bytes of a password at most, while a form may have a
password of a hundred and thirty characters. So a user with a long password can log in with others,
which differ from it only later (`login_with_other_password`).

That there are such registrations is shown of every form of a customer that is accepted: its members
are read as they were posted (`Request.read_toRegister`), and a new service creates its first user
from them (`State.first_registration`).
-/

set_option autoImplicit false

namespace DualToken

open Operation

/-! ## Finding the row of an email -/

/-- Where emails are distinct, an email is found at the row that has it. -/
theorem Directory.IsSound.userByEmail {directory : Directory} {row : UserRow} {user : User}
    (sound : directory.IsSound) (member : row ∈ directory.rows) (read : row.user = .ok user) :
    directory.userByEmail row.email = .ok (some user) := by
  have distinct := sound.emails
  cases present : directory.table with
  | none =>
    rw [rows, present] at member
    exact absurd member List.not_mem_nil
  | some table =>
    simp only [rows, present, Option.map_some, Option.getD_some] at member distinct
    have found : table.byEmail? row.email = some row := by
      cases outcome : table.byEmail? row.email with
      | none => exact absurd (List.mem_map_of_mem member) (UserTable.byEmail?_eq_none_iff.1 outcome)
      | some other =>
        have same : other.email = row.email := by simpa using List.find?_some outcome
        rw [List.inj_on_of_nodup_map distinct (List.mem_of_find?_eq_some outcome) member same]
    simp only [Directory.userByEmail, liveTable, present, Except.bind, found, ofRow?, read]
    rfl

/-! ## Logins with a known email -/

namespace State

variable {service : Service} {state : State} {credentials : Credentials} {user : User}

/-- A known email is found, if the store answers. -/
theorem run_userByEmail {email : String}
    (answers : StoreReply.Succeeds (state.perform service (.store (.userByEmail email))).1)
    (found : state.directory.userByEmail email = .ok (some user)) :
    (state.run service (callStore (.userByEmail email))).1 = .ok (some user) := by
  obtain ⟨value, answered⟩ := answers
  have ends : (callStore (.userByEmail email)).Ends Action.KeepsUsers state _ fun _ => True :=
    ends_callStore nofun fun _ _ => trivial
  have ran : (state.run service (callStore (.userByEmail email))).1 = .ok value := by
    rw [run, run_callStore, Program.run_act, afterFirst, answered]
    rfl
  have same : state.directory.userByEmail email = .ok value := Ends.of_ok ends ran
  rw [ran, Except.ok.inj (same.symm.trans found)]

/-- **A wrong password is refused as such, or because a store failed.** -/
theorem login_refused (service : Service)
    (found : state.directory.userByEmail credentials.email = .ok (some user))
    (wrong : Directory.comparePasswords user.passwordHash credentials.password = false) :
    ∃ failure, (state.run service (service.login credentials)).1 = .error failure ∧
      (failure = .refused .invalidCredentials ∨ failure.IsOfStorage) := by
  have ends := (Service.ends_authenticate state credentials).keepsUsers
  rw [Service.login_eq]
  cases outcome : (state.run service (Service.authenticate credentials)).1 with
  | ok other =>
    obtain ⟨found', right⟩ := Ends.of_ok ends outcome
    obtain rfl : other = user := Option.some.inj (Except.ok.inj (found'.symm.trans found))
    exact absurd (right.symm.trans wrong) nofun
  | error failure =>
    rw [(run_bind_error outcome _).1]
    exact ⟨failure, rfl, Ends.of_error ends outcome⟩

/-- In a calm state the store answers where a known email is. -/
theorem IsCalm.answers {email : String} (calm : state.IsCalm)
    (found : state.directory.userByEmail email = .ok (some user)) :
    StoreReply.Succeeds (state.perform service (.store (.userByEmail email))).1 := by
  rw [calm.perform_store]
  exact ⟨some user, congrArg StoreReply.answer found⟩

/-- Moving the clock leaves a state calm. -/
theorem IsCalm.setClock (calm : state.IsCalm) (service : Service) (time : Int) :
    (state.after service [.setClock time]).IsCalm :=
  ⟨calm.revocationPlan, calm.userPlan, calm.rivals⟩

/-- A login with a known email is decided by its password, if the store answers. -/
theorem run_login
    (answers : StoreReply.Succeeds
      (state.perform service (.store (.userByEmail credentials.email))).1)
    (found : state.directory.userByEmail credentials.email = .ok (some user)) :
    state.run service (service.login credentials) =
      (state.run service (callStore (.userByEmail credentials.email))).2.run service
        (if Directory.comparePasswords user.passwordHash credentials.password then
          service.issuePair user else refuse .invalidCredentials) :=
  (run_bind_ok (run_userByEmail answers found) _).1

/-- The time does not pass during a call. -/
theorem now_callStore (service : Service) (state : State) (call : StoreCall)
    (keeps : Action.KeepsUsers (.store call)) :
    (state.run service (callStore call)).2.now = state.now :=
  (Ends.run service (ends_callStore keeps fun _ _ => trivial)).2.now

/-- **The right password logs in**, if the store answers and there are times at which the tokens
end. -/
theorem login_right
    (answers : StoreReply.Succeeds
      (state.perform service (.store (.userByEmail credentials.email))).1)
    (found : state.directory.userByEmail credentials.email = .ok (some user))
    (right : Directory.comparePasswords user.passwordHash credentials.password = true)
    (within : (Time.add? state.now service.accessLifetime).isSome)
    (within' : (Time.add? state.now service.secretLifetime).isSome) :
    ∃ pair, (state.run service (service.login credentials)).1 = .ok pair := by
  obtain ⟨accessEnd, within⟩ := Option.isSome_iff_exists.1 within
  obtain ⟨secretEnd, within'⟩ := Option.isSome_iff_exists.1 within'
  rw [run_login answers found, if_pos right]
  have now := now_callStore service state (.userByEmail credentials.email) nofun
  rw [← now] at within within'
  obtain ⟨sessions, -, issues⟩ : ∃ _, _ ∧ Goes service (service.issuePair user) _ _ _ :=
    goes_issuePair within within' rfl rfl
  exact ⟨_, congrArg Prod.fst issues.run⟩

end State

/-! ## Behind a registration -/

theorem Directory.length_salt (draw : Nat) : (salt draw).length = 16 := by
  simp [salt]

/-- The row that a registration has added is found by its email behind further requests. -/
theorem State.exists_registered (service : Service) {before : State}
    (sound : before.directory.IsSound) {request : Request} {form : NewUser}
    (read : JsonBody.read NewUser.read request = .ok form)
    (isRegistration : request.IsRegistration)
    (created : IsCreated (before.run service (Router.respond service request)).1)
    {history : List Event} (outside : ∀ event ∈ history, event.IsFromOutside) :
    let registered := (before.run service (Router.respond service request)).2
    ∃ user, (registered.after service history).directory.userByEmail form.email = .ok (some user) ∧
      ∀ password, Directory.comparePasswords user.passwordHash password = true ↔
        PasswordHash.digest service.hashCost (Directory.salt before.directory.saltsDrawn) password =
          PasswordHash.digest service.hashCost (Directory.salt before.directory.saltsDrawn)
            form.password := by
  intro registered
  rcases respond_cases service before request with
    ⟨form', table, row, user, -, enrolls, stored, -⟩ | ⟨notCreated, -⟩
  · obtain rfl : form' = form := Except.ok.inj (enrolls.read.symm.trans read)
    obtain ⟨sound', grown⟩ := grows_after service outside (enrolls.adds.isSound sound)
    have member : row ∈ (registered.after service history).directory.rows := by
      refine grown.subset ?_
      rw [enrolls.adds.rows_eq]
      exact List.mem_append_right _ (List.mem_singleton.2 rfl)
    have email : row.email = form'.email := by
      rw [enrolls.adds.inserts.inserted_eq]
      rfl
    refine ⟨user, email ▸ sound'.userByEmail member stored, fun password => ?_⟩
    rw [Directory.comparePasswords, UserRow.passwordHash_of_user stored]
    exact PasswordHash.verify_eq_true_iff (Directory.length_salt _) enrolls.adds.hashed password
  · exact absurd ⟨isRegistration, created⟩ notCreated

/-! ## The first user -/

/-- A body that is announced as JSON and not too large is read as its reader reads it. -/
theorem JsonBody.read_of_value {α : Type} {reader : Json.Reader α} {request : Request} {value : α}
    {rest : List UInt8}
    (announced : request.headers = [("content-type", Text.utf8 "application/json")])
    (fits : request.body.length ≤ maxSize) (found : reader request.body = .value value rest) :
    read reader request = .ok value := by
  have isJson : isAnnounced [("content-type", Text.utf8 "application/json")] = true := by
    decide +kernel
  rw [read, announced, isJson, if_neg (by decide), if_neg (Nat.not_lt.2 fits), Json.readFront,
    found]

/-- The members of a form as they are posted. -/
def NewUser.members (form : NewUser) : List (String × Json.Value) :=
  [("first_name", .text form.firstName), ("last_name", .text form.lastName),
    ("email", .text form.email), ("password", .text form.password),
    ("phone_number", .text form.phoneNumber), ("address", .text form.address)]

/-- The request that posts a form. -/
def Request.toRegister (form : NewUser) : Request :=
  { method := "POST", target := "/api/v1/register"
    headers := [("content-type", Text.utf8 "application/json")]
    body := (Json.Value.object form.members).bytes }

/-- The fields of a form in the order of its layout. -/
def NewUser.record (form : NewUser) : NewUser.layout.Record :=
  (form.firstName, form.lastName, form.email, form.password, form.phoneNumber, form.address, ())

theorem NewUser.matches_members (form : NewUser) :
    Json.Layout.Matches layout (form.members.map fun member => (member.1, member.2.bytes))
      form.record := by
  refine .cons (Json.reads_text form.firstName) ?_
  refine .cons (Json.reads_text form.lastName) ?_
  refine .cons (Json.reads_text form.email) ?_
  refine .cons (Json.reads_text form.password) ?_
  refine .cons (Json.reads_text form.phoneNumber) ?_
  exact .cons (Json.reads_text form.address) .nil

/-- **The form of a customer is read as it was posted**, if its body is not too large. -/
theorem Request.read_toRegister {form : NewUser} (isCustomer : form.role = .customer)
    (fits : (toRegister form).body.length ≤ JsonBody.maxSize) :
    JsonBody.read NewUser.read (toRegister form) = .ok form := by
  have object : NewUser.layout.read ((Json.Value.object form.members).bytes ++ []) =
      .value form.record [] :=
    Json.Layout.read_object (form.matches_members.fills (by decide))
      (Json.Layout.Draft.complete?_full NewUser.layout form.record) []
  rw [List.append_nil] at object
  have same : (⟨form.firstName, form.lastName, form.email, form.password, form.phoneNumber,
      form.address, .customer⟩ : NewUser) = form := by
    rw [← isCustomer]
  have found : NewUser.read (toRegister form).body = .value form [] := by
    rw [NewUser.read, toRegister, object]
    exact congrArg (Json.Outcome.value · []) same
  exact JsonBody.read_of_value rfl fits found

theorem Request.isRegistration_toRegister (form : NewUser) :
    (toRegister form).IsRegistration := by
  refine ⟨rfl, ?_⟩
  have path : (toRegister form).path = ({ method := "POST", target := "/api/v1/register" } :
      Request).path := rfl
  rw [path]
  decide +kernel

/-- A new service registers its first user, and the store answers a minute later. -/
theorem State.first_registration (service : Service) {form : NewUser}
    (allowed : PasswordHash.isCost service.hashCost = true)
    (isCustomer : form.role = .customer)
    (fits : (Request.toRegister form).body.length ≤ JsonBody.maxSize)
    (valid : form.validate = .ok ()) :
    let answered := ({ now := 0 } : State).run service (Router.respond service (.toRegister form))
    IsCreated answered.1 ∧ (answered.2.after service [.setClock 60]).IsCalm := by
  intro answered
  have calm : ({ now := 0 } : State).IsCalm := ⟨rfl, rfl, rfl⟩
  refine ⟨?_, (calm.run _).setClock service 60⟩
  exact State.isCreated_respond calm (Request.isRegistration_toRegister form)
    (Request.read_toRegister isCustomer fits) valid rfl rfl (by decide) allowed

theorem Event.isFromOutside_setClock (time : Int) :
    ∀ event ∈ [Event.setClock time], event.IsFromOutside := by
  intro event member
  obtain rfl := List.mem_singleton.1 member
  trivial

/-! ## Which passwords log in -/

/-- **A login behind a registration is decided by the digest of the password.** A password that has
not the digest of the registered one is refused: for the credentials, if the store answers, and
otherwise for them or for storage. A password that has it logs in, if the store answers and there
are times at which the tokens end; the registered password has it, and so has every password whose
significant bytes repeat to the same words. -/
theorem login_after_registration (service : Service) {before : State}
    (sound : before.directory.IsSound) {request : Request} {form : NewUser}
    (read : JsonBody.read NewUser.read request = .ok form)
    (isRegistration : request.IsRegistration)
    (created : IsCreated (before.run service (Router.respond service request)).1)
    {history : List Event} (outside : ∀ event ∈ history, event.IsFromOutside) :
    let state := (before.run service (Router.respond service request)).2.after service history
    let digest := PasswordHash.digest service.hashCost (Directory.salt before.directory.saltsDrawn)
    let answers := StoreReply.Succeeds (state.perform service (.store (.userByEmail form.email))).1
    ∀ password,
      (digest password ≠ digest form.password →
        (∃ failure, (state.run service (service.login ⟨form.email, password⟩)).1 = .error failure ∧
            (failure = .refused .invalidCredentials ∨ failure.IsOfStorage)) ∧
          (answers → (state.run service (service.login ⟨form.email, password⟩)).1 =
            .error (.refused .invalidCredentials))) ∧
      (digest password = digest form.password → answers →
        (Time.add? state.now service.accessLifetime).isSome →
        (Time.add? state.now service.secretLifetime).isSome →
          ∃ pair, (state.run service (service.login ⟨form.email, password⟩)).1 = .ok pair) ∧
      (Blowfish.cyclicWords 18 (PasswordHash.significantBytes password) =
          Blowfish.cyclicWords 18 (PasswordHash.significantBytes form.password) →
        digest password = digest form.password) := by
  intro state digest answers password
  obtain ⟨user, found, decides⟩ :=
    State.exists_registered service sound read isRegistration created outside
  refine ⟨fun other => ?_, fun same answered within within' => ?_, PasswordHash.digest_congr⟩
  · have wrong : Directory.comparePasswords user.passwordHash password = false :=
      Bool.eq_false_iff.2 fun right => other ((decides password).1 right)
    refine ⟨State.login_refused service found wrong, fun answered => ?_⟩
    rw [State.run_login answered found, wrong]
    rfl
  · exact State.login_right answered found ((decides password).2 same) within within'

/-- The first user of a service registers and logs in a minute later. -/
theorem login_after_registration_of_first_user :
    let service : Service := ⟨⟨[1], [2]⟩, 900, 86400, 300, ⟨true, 900, 86400⟩, .table, 4⟩
    let form : NewUser := ⟨"Ada", "Byron", "ada@example.org", "secret", "1", "London", .customer⟩
    let registered : State :=
      (({ now := 0 } : State).run service (Router.respond service (.toRegister form))).2
    ∃ pair, ((registered.after service [.setClock 60]).run service
      (service.login ⟨"ada@example.org", "secret"⟩)).1 = .ok pair := by
  intro service form registered
  have fits : (Request.toRegister form).body.length ≤ JsonBody.maxSize := by decide +kernel
  have read := Request.read_toRegister rfl fits
  have isRegistration := Request.isRegistration_toRegister form
  have outside := Event.isFromOutside_setClock 60
  obtain ⟨created, calm⟩ := State.first_registration service rfl rfl fits (by decide +kernel)
  obtain ⟨user, found, -⟩ :=
    State.exists_registered service Directory.isSound_empty read isRegistration created outside
  obtain ⟨-, logsIn, -⟩ := login_after_registration service Directory.isSound_empty read
    isRegistration created outside "secret"
  exact logsIn rfl (calm.answers found) rfl rfl

/-- **A long password is not the only one that logs in.** Two passwords of eighty characters differ
in the last one; the first is registered, and the second logs in. -/
theorem login_with_other_password :
    let service : Service := ⟨⟨[1], [2]⟩, 900, 86400, 300, ⟨true, 900, 86400⟩, .table, 4⟩
    let password (last : Char) : String := String.ofList (List.replicate 79 'a' ++ [last])
    let form : NewUser :=
      ⟨"Ada", "Byron", "ada@example.org", password 'a', "1", "London", .customer⟩
    let answered := ({ now := 0 } : State).run service (Router.respond service (.toRegister form))
    form.validate = .ok () ∧ JsonBody.read NewUser.read (.toRegister form) = .ok form ∧
      IsCreated answered.1 ∧ password 'b' ≠ form.password ∧
      ∃ pair, ((answered.2.after service [.setClock 60]).run service
        (service.login ⟨form.email, password 'b'⟩)).1 = .ok pair := by
  intro service password form answered
  have fits : (Request.toRegister form).body.length ≤ JsonBody.maxSize := by decide +kernel
  have read := Request.read_toRegister rfl fits
  have valid : form.validate = .ok () := by decide +kernel
  have isRegistration := Request.isRegistration_toRegister form
  have outside := Event.isFromOutside_setClock 60
  obtain ⟨created, calm⟩ := State.first_registration service rfl rfl fits valid
  obtain ⟨user, found, decides⟩ :=
    State.exists_registered service Directory.isSound_empty read isRegistration created outside
  have significant : PasswordHash.significantBytes (password 'b') =
      PasswordHash.significantBytes form.password := by decide +kernel
  have right := (decides (password 'b')).2
    (PasswordHash.digest_congr (congrArg (Blowfish.cyclicWords 18) significant))
  refine ⟨valid, read, created, by decide +kernel, ?_⟩
  exact State.login_right (calm.answers found) found right rfl rfl

end DualToken
