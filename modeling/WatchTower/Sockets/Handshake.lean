import WatchTower.Encoding.Percent
import WatchTower.Runtime.Text

set_option relaxedAutoImplicit false
set_option autoImplicit false

/-!
# The handshake of a socket

`getCookie` and the middleware of `io.use` in `sockets/server.socket.js`. A socket is authenticated
with the cookie of the REST API; `jwt.verify` is a parameter.

## Main definitions

* `WatchTower.getCookie`, `WatchTower.cookieHeader` — the reader, and the header that a browser
  sends.
* `WatchTower.handshake` — the middleware.

## Main results

* `WatchTower.getCookie_cookieHeader` — the reader finds the first cookie of a name, whatever the
  other cookies are.
* `WatchTower.getCookie_roundTrip` — a value that has been set is read back.
-/

namespace WatchTower

open Encoding

/-! ## Cookies -/

/-- What `decodeURIComponent` throws. -/
def uriError : JsError := ⟨"URI malformed", none⟩

/-- `getCookie(header, name)`. -/
def getCookie (header : Option Text) (name : Text) : Except JsError (Option Text) :=
  match header with
  | none => .ok none
  | some header =>
    if header = [] then .ok none
    else
      match ((header.splitOn ';').map trim).find? fun c => (name ++ ['=']).isPrefixOf c with
      | none => .ok none
      | some found =>
        match Percent.decode (found.drop (name.length + 1)) with
        | some value => .ok (some value)
        | none => .error uriError

/-- A cookie in the header. -/
def cookiePair (cookie : Text × Text) : Text := cookie.1 ++ '=' :: cookie.2

/-- The header that a browser sends. -/
def cookieHeader (cookies : List (Text × Text)) : Text :=
  "; ".toList.intercalate (cookies.map cookiePair)

/-- A cookie that a browser sends: neither part has a semicolon, and its name no equals sign. White
space at the ends is gone, but there may be some within. -/
structure IsCookie (cookie : Text × Text) : Prop where
  name : '=' ∉ cookie.1 ∧ ';' ∉ cookie.1
  value : ';' ∉ cookie.2
  trimmed : trim (cookiePair cookie) = cookiePair cookie

/-- The pair of a cookie has no semicolon. -/
lemma IsCookie.not_mem {cookie : Text × Text} (h : IsCookie cookie) : ';' ∉ cookiePair cookie := by
  rw [cookiePair, List.mem_append, List.mem_cons, not_or, not_or]
  exact ⟨h.name.2, by decide, h.value⟩

/-- A cookie without white space is one. -/
lemma isCookie_of_forall {name value : Text}
    (hname : ∀ c ∈ name, c ≠ '=' ∧ c ≠ ';' ∧ isWhiteSpace c = false)
    (hvalue : ∀ c ∈ value, c ≠ ';' ∧ isWhiteSpace c = false) : IsCookie (name, value) where
  name := ⟨fun hmem => (hname _ hmem).1 rfl, fun hmem => (hname _ hmem).2.1 rfl⟩
  value hmem := (hvalue _ hmem).1 rfl
  trimmed := by
    apply trim_of_forall
    simp only [cookiePair, List.forall_mem_append, List.forall_mem_cons]
    exact ⟨fun c hc => (hname c hc).2.2, by decide, fun c hc => (hvalue c hc).2⟩

/-- A space before a text is trimmed. -/
lemma trim_space (s : Text) : trim (' ' :: s) = trim s := by
  rw [trim, List.dropWhile_cons_of_pos (by decide), trim]

/-- The parts of the header. -/
lemma trim_splitOn_cookieHeader {cookies : List (Text × Text)} (hne : cookies ≠ [])
    (h : ∀ cookie ∈ cookies, IsCookie cookie) :
    ((cookieHeader cookies).splitOn ';').map trim = cookies.map cookiePair := by
  induction cookies with
  | nil => exact absurd rfl hne
  | cons cookie cookies ih =>
    rw [List.forall_mem_cons] at h
    have hnot := h.1.not_mem
    have htrim := h.1.trimmed
    cases cookies with
    | nil =>
      rw [cookieHeader, List.map_singleton, List.intercalate_singleton,
        List.splitOn_eq_singleton hnot, List.map_singleton, htrim]
    | cons next cookies =>
      have hheader : cookieHeader (cookie :: next :: cookies) =
          cookiePair cookie ++ ';' :: ' ' :: cookieHeader (next :: cookies) := by
        rw [cookieHeader, List.map_cons, List.map_cons, List.intercalate_cons_cons,
          List.append_assoc]
        rfl
      have hspace : ((' ' :: cookieHeader (next :: cookies)).splitOn ';').map trim =
          ((cookieHeader (next :: cookies)).splitOn ';').map trim := by
        rw [List.splitOn_cons_eq_if_modifyHead, if_neg (by decide)]
        cases (cookieHeader (next :: cookies)).splitOn ';' with
        | nil => rfl
        | cons part parts => rw [List.modifyHead_cons, List.map_cons, List.map_cons, trim_space]
      rw [hheader, List.splitOn_append_cons_self_of_not_mem hnot, List.map_cons, htrim, hspace,
        ih (List.cons_ne_nil _ _) h.2]
      rfl

/-- The text before the first equals sign. -/
lemma takeWhile_append_equals {name : Text} (hname : '=' ∉ name) (rest : Text) :
    (name ++ '=' :: rest).takeWhile (· ≠ '=') = name := by
  have hall : ∀ c ∈ name, decide (c ≠ '=') = true :=
    fun c hc => decide_eq_true fun heq => hname (heq ▸ hc)
  rw [List.takeWhile_append_of_pos hall, List.takeWhile_cons_of_neg (by simp), List.append_nil]

/-- The pair of a cookie begins with its name. -/
lemma isPrefixOf_cookiePair {cookie : Text × Text} (h : IsCookie cookie) {name : Text}
    (hname : '=' ∉ name) :
    (name ++ ['=']).isPrefixOf (cookiePair cookie) = decide (cookie.1 = name) := by
  have hfirst := h.name.1
  rw [Bool.eq_iff_iff, List.isPrefixOf_iff_prefix, decide_eq_true_eq]
  constructor
  · rintro ⟨rest, hrest⟩
    rw [List.append_assoc, List.singleton_append, cookiePair] at hrest
    rw [← takeWhile_append_equals hfirst cookie.2, ← hrest, takeWhile_append_equals hname]
  · rintro rfl
    exact ⟨cookie.2, by rw [cookiePair, List.append_assoc, List.singleton_append]⟩

/-- The value of a cookie is what follows. -/
lemma drop_cookiePair (cookie : Text × Text) :
    (cookiePair cookie).drop (cookie.1.length + 1) = cookie.2 := by
  rw [cookiePair, List.append_cons, List.drop_append_of_le_length (by simp),
    List.drop_eq_nil_of_le (by simp), List.nil_append]

/-- The first pair that begins with a name. -/
lemma find?_cookiePair {cookies : List (Text × Text)} (h : ∀ cookie ∈ cookies, IsCookie cookie)
    {name : Text} (hname : '=' ∉ name) :
    (cookies.map cookiePair).find? (fun c => (name ++ ['=']).isPrefixOf c) =
      (cookies.find? fun cookie => cookie.1 = name).map cookiePair := by
  induction cookies with
  | nil => rfl
  | cons cookie cookies ih =>
    rw [List.forall_mem_cons] at h
    rw [List.map_cons, List.find?_cons, List.find?_cons, isPrefixOf_cookiePair h.1 hname]
    cases decide (cookie.1 = name) with
    | true => rfl
    | false => exact ih h.2

/-- **The reader finds the first cookie of a name**, whatever the other cookies are. -/
theorem getCookie_cookieHeader {cookies : List (Text × Text)}
    (h : ∀ cookie ∈ cookies, IsCookie cookie) {name : Text} (hname : '=' ∉ name) :
    getCookie (some (cookieHeader cookies)) name =
      match cookies.find? fun cookie => cookie.1 = name with
      | none => .ok none
      | some cookie =>
        match Percent.decode cookie.2 with
        | some value => .ok (some value)
        | none => .error uriError := by
  cases cookies with
  | nil => rfl
  | cons cookie cookies =>
    have hparts := trim_splitOn_cookieHeader (List.cons_ne_nil cookie cookies) h
    have hheader : cookieHeader (cookie :: cookies) ≠ [] := by
      intro hnil
      rw [hnil, List.splitOn_nil, List.map_cons, List.map_cons] at hparts
      simp [cookiePair, trim] at hparts
    rw [getCookie, if_neg hheader, hparts, find?_cookiePair h hname]
    cases hfound : (cookie :: cookies).find? fun cookie => cookie.1 = name with
    | none => rfl
    | some found =>
      obtain rfl : found.1 = name := by simpa using List.find?_some hfound
      rw [Option.map_some]
      dsimp only
      rw [drop_cookiePair]

/-- No character of an encoded value ends it. -/
lemma not_separator_of_isSafe {c : Char} (h : Percent.isSafe c = true) :
    c ≠ ';' ∧ isWhiteSpace c = false := by
  obtain ⟨hlow, hhigh, hne⟩ := Percent.toNat_of_isSafe h
  constructor
  · rintro rfl
    exact hne rfl
  · simp only [isWhiteSpace, Bool.or_eq_false_iff, Bool.and_eq_false_imp, decide_eq_true_eq,
      decide_eq_false_iff_not]
    omega

/-- **A value that has been set is read back**, unless another cookie of the name comes before. -/
theorem getCookie_roundTrip (pre post : List (Text × Text)) (name value : Text)
    (hname : ∀ c ∈ name, c ≠ '=' ∧ c ≠ ';' ∧ isWhiteSpace c = false)
    (hpre : ∀ cookie ∈ pre, IsCookie cookie ∧ cookie.1 ≠ name)
    (hpost : ∀ cookie ∈ post, IsCookie cookie) :
    getCookie (some (cookieHeader (pre ++ (name, Percent.encode value) :: post))) name =
      .ok (some value) := by
  have hself : IsCookie (name, Percent.encode value) :=
    isCookie_of_forall hname fun c hc =>
      not_separator_of_isSafe (Percent.isSafe_of_mem_encode hc)
  have hall : ∀ cookie ∈ pre ++ (name, Percent.encode value) :: post, IsCookie cookie := by
    rw [List.forall_mem_append, List.forall_mem_cons]
    exact ⟨fun cookie hcookie => (hpre cookie hcookie).1, hself, hpost⟩
  have hnone : (pre.find? fun cookie => cookie.1 = name) = none := by
    rw [List.find?_eq_none]
    intro cookie hcookie
    simpa using (hpre cookie hcookie).2
  rw [getCookie_cookieHeader hall fun hmem => (hname _ hmem).1 rfl, List.find?_append, hnone,
    Option.none_or, List.find?_cons_of_pos (by simp)]
  dsimp only
  rw [Percent.decode_encode]

/-- The session is read from among other cookies. -/
theorem getCookie_session :
    getCookie (some "_ga=GA1.1.7; uptimeaitoken=eyJ.c%3B.sig; theme=very dark".toList)
      "uptimeaitoken".toList = .ok (some "eyJ.c;.sig".toList) := by
  have hname : ∀ c ∈ "uptimeaitoken".toList, c ≠ '=' ∧ c ≠ ';' ∧ isWhiteSpace c = false := by
    have hall : ("uptimeaitoken".toList.all fun c =>
        c ≠ '=' ∧ c ≠ ';' ∧ isWhiteSpace c = false) = true := by decide
    exact fun c hc => of_decide_eq_true (List.all_eq_true.1 hall c hc)
  have hpre : IsCookie ("_ga".toList, "GA1.1.7".toList) :=
    ⟨by decide, by decide, by decide⟩
  have hpost : IsCookie ("theme".toList, "very dark".toList) :=
    ⟨by decide, by decide, by decide⟩
  have hread := getCookie_roundTrip [("_ga".toList, "GA1.1.7".toList)]
    [("theme".toList, "very dark".toList)] "uptimeaitoken".toList "eyJ.c;.sig".toList hname
    (List.forall_mem_singleton.2 ⟨hpre, by decide⟩) (List.forall_mem_singleton.2 hpost)
  exact hread

/-! ## The middleware -/

/-- `config.AUTH_COOKIE`. -/
def authCookie : Text := "uptimeaitoken".toList

/-- What `jwt.verify` returns. -/
structure Claims where
  /-- `id`. -/
  id : Js
  deriving DecidableEq

/-- `a || b`, for a string that may be missing. -/
def textOr (a : Option Text) (b : Js) : Js :=
  match a with
  | none | some [] => b
  | some text => .str (String.ofList text)

/-- The token of a handshake, from the cookies or from `handshake.auth`. -/
def handshakeToken (cookie : Option Text) (authToken : Js) : Except JsError Js := do
  let session ← getCookie cookie authCookie
  if session.getD [] ≠ [] then return textOr session .undefined
  let legacy ← getCookie cookie "accessToken".toList
  return textOr legacy authToken

/-- The middleware of `io.use`, where `verify` is `jwt.verify(…, JWT_SECRET)`, unless that
throws. -/
def handshake (verify : Js → Option Claims) (cookie : Option Text) (authToken : Js) :
    Except String Claims :=
  match handshakeToken cookie authToken with
  | .error _ => .error "Unauthorized"
  | .ok token =>
    if token.truthy then
      match verify token with
      | none => .error "Unauthorized"
      | some claims => if claims.id.truthy then .ok claims else .error "Unauthorized"
    else .error "Unauthorized"

/-- Who passes has a token that verifies, and a subject. -/
lemma handshake_eq_ok {verify : Js → Option Claims} {cookie : Option Text} {authToken : Js}
    {claims : Claims} (h : handshake verify cookie authToken = .ok claims) :
    ∃ token, handshakeToken cookie authToken = .ok token ∧ verify token = some claims ∧
      claims.id.truthy = true := by
  unfold handshake at h
  cases htoken : handshakeToken cookie authToken with
  | error err => simp [htoken] at h
  | ok token =>
    cases hverify : verify token with
    | none => cases htruthy : token.truthy <;> simp [htoken, hverify, htruthy] at h
    | some claims' =>
      cases htruthy : token.truthy <;> cases hid : claims'.id.truthy <;>
        simp [htoken, hverify, htruthy, hid] at h
      obtain rfl := h
      exact ⟨token, rfl, hverify, hid⟩

end WatchTower
