import WatchTower.Auth.User

set_option relaxedAutoImplicit false
set_option autoImplicit false

/-!
# The account endpoints

`controllers/user.controller.js`: registration, login, e-mail verification and the two halves of
a password reset. The routes call these handlers on the parsed body as it is, without a schema.

A request carries the clock reading and the random values that its handler draws. The
notification e-mails are left out: an error in sending one is caught, and nothing else depends on
them.

## Main definitions

* `WatchTower.AuthConfig`, `WatchTower.Response` — the settings, and what a handler answers.
* `WatchTower.registerUser`, `WatchTower.loginUser`, `WatchTower.verifyUser`,
  `WatchTower.forgotPassword`, `WatchTower.resetPassword` — the handlers.
-/

namespace WatchTower

open Documents Transition Transition.Prog

/-- The settings that the account endpoints read. -/
structure AuthConfig where
  /-- `GOOGLE_CLIENT_ID`, empty when it is not set. -/
  googleClientId : String
  /-- `AUTO_VERIFY_USERS`. -/
  autoVerifyUsers : Bool

/-- An answer to a request. -/
structure Response where
  /-- The status code. -/
  statusCode : ℕ
  /-- `message`. -/
  message : String
  /-- `data.user`. -/
  user : Option User
  /-- `data.token`. -/
  token : Option AccessToken
  /-- The auth cookie that is set. -/
  cookie : Option AccessToken
  deriving DecidableEq

/-- An answer without data. -/
def Response.plain (statusCode : ℕ) (message : String) : Response where
  statusCode := statusCode
  message := message
  user := none
  token := none
  cookie := none

/-- The sessions that an answer issues: by its cookie and by its token. -/
def Response.sessions (r : Response) : List AccessToken := r.cookie.toList ++ r.token.toList

/-- The error of destructuring a body that was not parsed. -/
def destructureError (property : String) : JsError where
  message := "Cannot destructure property '" ++ property ++
    "' of 'req.body' as it is undefined."
  code := none

/-- The error of `username.toLowerCase()` on a value that is no string. -/
def toLowerCaseError : Js → JsError
  | .undefined => ⟨"Cannot read properties of undefined (reading 'toLowerCase')", none⟩
  | .null => ⟨"Cannot read properties of null (reading 'toLowerCase')", none⟩
  | _ => ⟨"username.toLowerCase is not a function", none⟩

/-! ## Registration -/

/-- The fields that `registerUser` reads. -/
structure RegisterBody where
  /-- `username`. -/
  username : Js
  /-- `email`. -/
  email : Js
  /-- `fullname`. -/
  fullname : Js
  /-- `password`. -/
  password : Js

/-- A registration. -/
structure RegisterRequest where
  /-- `req.body`, nothing when it was not parsed. -/
  body : Option RegisterBody
  /-- `Date.now()`. -/
  now : Time
  /-- The `ObjectId` drawn. -/
  newId : ℕ
  /-- The salt drawn. -/
  salt : String

/-- A required text, empty when the value is absent; a failed cast fails the validation. -/
def castText (rt : AuthRuntime) (setter : String → String) (v : Js) : Except JsError String :=
  match rt.castString v with
  | .ok text => .ok ((text.map setter).getD "")
  | .error _ => .error validationError

/-- The document of a new local account, before it is validated. -/
def newLocalUser (rt : AuthRuntime) (req : RegisterRequest) (body : RegisterBody)
    (username : String) : Except JsError User := do
  let fullname ← castText rt rt.trim body.fullname
  let email ← castText rt rt.normalize body.email
  let password ← (rt.castString body.password).mapError fun _ => validationError
  return {
    id := req.newId
    username := rt.normalize (rt.toLowerCase username)
    fullname := fullname
    email := email
    password := password
    provider := .localAccount
    googleId := none
    forgotPasswordToken := none
    forgotPasswordExpire := none
    isVerified := false
    otp := none
    otpExpire := some (User.defaultOtpExpire req.now)
    avatar := "" }

/-- The answer that signs a user in. -/
def signIn (statusCode : ℕ) (message : String) (user : User) (shown : Option User) : Response where
  statusCode := statusCode
  message := message
  user := shown
  token := some user.generateAccessToken
  cookie := some user.generateAccessToken

/-- Signing a user in issues sessions of that user. -/
@[simp] lemma mem_sessions_signIn {k : AccessToken} {statusCode : ℕ} {message : String}
    {user : User} {shown : Option User} :
    k ∈ (signIn statusCode message user shown).sessions ↔ k = user.generateAccessToken := by
  simp [signIn, Response.sessions]

/-- The end of `registerUser`: read the new account back and sign it in. -/
def answerRegistration (user : UserDoc) (now : Time) : Accounts Response := do
  let createdUser : Option UserDoc ← findUserById user.user.id now
  match createdUser with
  | none => throw (.api 500 "Something went wrong while registering the user")
  | some createdUser =>
    return signIn 201 "User registered successfully" user.user (some createdUser.user)

/-- `POST /api/auth/register`. -/
def registerUser (rt : AuthRuntime) (cfg : AuthConfig) (req : RegisterRequest) :
    Accounts Response := do
  match req.body with
  | none => throw (.js (destructureError "username"))
  | some body =>
    let existedUser : Option UserDoc ←
      findUserByEmailOrUsername rt body.email body.username req.now
    if existedUser.isSome then throw (.api 409 "User with email or username already exists")
    else
      match body.username with
      | .str username =>
        let draft : User ← ofExcept (newLocalUser rt req body username)
        let user : UserDoc ← createUser rt req.salt draft
        if cfg.autoVerifyUsers then
          saveUser rt req.salt (user.assign fun u => { u with isVerified := true })
        answerRegistration user req.now
      | v => throw (.js (toLowerCaseError v))

/-! ## Login -/

/-- The fields that `loginUser` reads. -/
structure LoginBody where
  /-- `email`. -/
  email : Js
  /-- `username`. -/
  username : Js
  /-- `password`. -/
  password : Js

/-- A login. -/
structure LoginRequest where
  /-- `req.body`, nothing when it was not parsed. -/
  body : Option LoginBody
  /-- `Date.now()`. -/
  now : Time

/-- `POST /api/auth/login`. -/
def loginUser (rt : AuthRuntime) (req : LoginRequest) : Accounts Response := do
  match req.body with
  | none => throw (.js (destructureError "email"))
  | some body =>
    if body.username.truthy = false ∧ body.email.truthy = false then
      throw (.api 400 "username or email is required")
    else
      let found : Option UserDoc ←
        findUserByEmailOrUsername rt body.email body.username req.now
      match found with
      | none => throw (.api 404 "User does not exist")
      | some doc =>
        let isPasswordValid : Bool ← ofExcept (doc.user.comparePassword rt body.password)
        if isPasswordValid = false then throw (.api 401 "Invalid user credentials")
        else if doc.user.isVerified = false then
          throw (.api 401 "User is not verified. Please verify your email first.")
        else
          let loggedInUser : Option UserDoc ← findUserById doc.user.id req.now
          return signIn 200 "User logged in successfully" doc.user (loggedInUser.map (·.user))

/-! ## E-mail verification -/

/-- A verification. -/
structure VerifyRequest where
  /-- `req.params.id`. -/
  id : String
  /-- The field `otp` of `req.body`, nothing when the body was not parsed. -/
  otp : Option Js
  /-- `Date.now()`. -/
  now : Time

/-- `date < now`, false when there is no date. -/
def isPast (date : Option Time) (now : Time) : Bool := date.any (· < now)

/-- The assignments of a verification. -/
def User.verified (u : User) : User :=
  { u with isVerified := true, otp := none, otpExpire := none }

/-- `POST /api/auth/verify/:id`. -/
def verifyUser (rt : AuthRuntime) (req : VerifyRequest) : Accounts Response := do
  match req.otp with
  | none => throw (.js (destructureError "otp"))
  | some otp =>
    let userid : ℕ ← ofExcept (rt.castObjectId req.id)
    let found : Option UserDoc ← findUserById userid req.now
    match found with
    | none => throw (.api 404 "User not found")
    | some doc =>
      if doc.user.isVerified then return .plain 400 "User is already verified"
      else if Js.ofField doc.user.otp ≠ otp ∨ isPast doc.user.otpExpire req.now then
        throw (.api 400 "Invalid or expired OTP")
      else
        let () ← saveUnvalidated (doc.assign User.verified)
        return .plain 200 "User verified successfully"

/-! ## Password reset -/

/-- A request for a reset link. -/
structure ForgotRequest where
  /-- The field `email` of `req.body`, nothing when the body was not parsed. -/
  email : Option Js
  /-- `Date.now()`. -/
  now : Time
  /-- The token drawn. -/
  token : String

/-- `POST /api/auth/forgot-password`. -/
def forgotPassword (rt : AuthRuntime) (req : ForgotRequest) : Accounts Response := do
  match req.email with
  | none => throw (.js (destructureError "email"))
  | some email =>
    if email.truthy = false then throw (.api 400 "Email is required")
    else
      let text : String ← ofExcept (rt.toText email)
      if rt.trim text = "" then throw (.api 400 "Email is required")
      else
        let found : Option UserDoc ← findUserByEmail rt (rt.trim text) req.now
        match found with
        | none => pure ()
        | some doc => saveUnvalidated (doc.assign (User.generateForgotToken rt req.token req.now))
        return .plain 200 "If an account exists for that email, a reset link has been sent."

/-- A reset. -/
structure ResetRequest where
  /-- `req.params.token`. -/
  token : String
  /-- The field `newPassword` of `req.body`, nothing when the body was not parsed. -/
  newPassword : Option Js
  /-- `Date.now()`. -/
  now : Time
  /-- The salt drawn. -/
  salt : String

/-- `POST /api/auth/reset-password/:token`. -/
def resetPassword (rt : AuthRuntime) (req : ResetRequest) : Accounts Response := do
  match req.newPassword with
  | none => throw (.js (destructureError "newPassword"))
  | some newPassword =>
    if newPassword.truthy = false then throw (.api 400 "New password is required")
    else
      let text : String ← ofExcept (rt.toText newPassword)
      if jsLength text < 6 then throw (.api 400 "New password must be at least 6 characters")
      else
        let found : Option UserDoc ← findUserByForgotToken rt req.token req.now
        match found with
        | none => throw (.api 400 "This reset link is invalid or has expired")
        | some doc =>
          let password : Option String ←
            ofExcept ((rt.castString newPassword).mapError fun _ => validationError)
          saveUser rt req.salt (doc.assign fun u =>
            { u with
              password := password
              forgotPasswordToken := none
              forgotPasswordExpire := none })
          return .plain 200
            "Password reset successfully. You can now sign in with your new password."

end WatchTower
