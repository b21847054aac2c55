import WatchTower.Auth.UserController
import WatchTower.Documents.Unique
import WatchTower.Notifications.Delivery
import WatchTower.Runtime.Text
import WatchTower.Transition.Run

set_option relaxedAutoImplicit false
set_option autoImplicit false

/-!
# Notification channels

Creating and updating a channel, from `controllers/channel.controller.js`. A create checks that an
e-mail address looks like one, and that the channel is a new one; an update checks neither.

## Main definitions

* `WatchTower.looksLikeEmail` — the pattern of an e-mail address.
* `WatchTower.createChannel`, `WatchTower.updateChannel` — the endpoints.
* `WatchTower.ChannelCall`, `WatchTower.ChannelStep` — requests, one after another.
* `WatchTower.WellFormedChannels` — channels are distinct, and e-mail channels have addresses.
* `WatchTower.ChannelCall.Checked` — what a create checks holds of the result of an update.

## Main results

* `WatchTower.looksLikeEmail_iff` — what the pattern matches.
* `WatchTower.updateChannel_snd` — what an update does.
* `WatchTower.wellFormedChannels_iff` — channels stay well formed exactly when updates are checked.
-/

namespace WatchTower

open Documents Transition

/-! ## The endpoints -/

/-- Some text, a character, and then a text with a property. -/
def matchesAfter (c : Char) (rest : Text → Bool) (s : Text) : Bool :=
  s.tail.tails.any fun t => t.head? = some c && rest t.tail

/-- `/^\S+@\S+\.\S+$/`. -/
def looksLikeEmail (s : Text) : Bool :=
  s.all (fun c => !isWhiteSpace c) &&
    matchesAfter '@' (matchesAfter '.' fun t => t ≠ []) s

/-- `TYPES`. -/
def channelTypes : List ChannelType := [.email, .slack, .webhook, .sms]

/-- The type that a value names, if `TYPES` includes it. -/
def channelType (v : Js) : Option ChannelType := channelTypes.find? fun t => v = .str t.text

/-- The fields of a request body that the endpoints read. -/
structure ChannelBody where
  /-- `type`. -/
  type : Js := .undefined
  /-- `target`. -/
  target : Js := .undefined
  /-- `active`. -/
  active : Js := .undefined

/-- A channel of an owner with a type and a target. -/
def Channel.isAt (owner : ℕ) (type : ChannelType) (target : String) (c : Channel) : Bool :=
  c.userId = owner && c.type = type && c.target = target

/-- A channel by its id, in the scope of its owner. -/
def Channel.isOwners (owner id : ℕ) (c : Channel) : Bool := c.id = id && c.userId = owner

variable (rt : TextRuntime)

/-- The string of a target, which is empty if there is none. -/
def targetText (target : Js) : Except JsError Text :=
  if target.truthy then rt.string target else return []

/-- What a create adds, for a channel that gets the id `id`. -/
def newChannel (owner id : ℕ) (body : ChannelBody) (docs : List Channel) : Except Thrown Channel :=
  match targetText rt body.target with
  | .error err => throw (.js err)
  | .ok target =>
    if trim target = [] then throw (.api 400 "Target is required")
    else if body.type.truthy = true ∧ channelType body.type = none then
      throw (.api 400 "Type must be one of: Email, Slack, Webhook, SMS")
    else
      let type := (channelType body.type).getD .email
      if type = .email ∧ looksLikeEmail target = false then
        throw (.api 400 "Enter a valid email address")
      else if docs.any (Channel.isAt owner type (.ofList (trim target))) then
        throw (.api 409 "That channel already exists")
      else return ⟨id, owner, type, .ofList (trim target), true⟩

/-- `createChannel`. -/
def createChannel (owner id : ℕ) (body : Option ChannelBody) (docs : List Channel) :
    Except Thrown (ApiResponse Channel) × List Channel :=
  match body with
  | none => (.error (.js (destructureError "type")), docs)
  | some body =>
    match newChannel rt owner id body docs with
    | .error err => (.error err, docs)
    | .ok channel => (.ok ⟨201, channel, "Channel created successfully"⟩, docs ++ [channel])

/-- The fields that an update sets. -/
structure ChannelUpdate where
  /-- `active`. -/
  active : Option Bool
  /-- `target`. -/
  target : Option Text
  /-- `type`. -/
  type : Option ChannelType

/-- `update` of `updateChannel`. -/
def channelUpdate (body : ChannelBody) : Except Thrown ChannelUpdate :=
  let active := match body.active with
    | .bool b => some b
    | _ => none
  match targetText rt body.target with
  | .error err => throw (.js err)
  | .ok text =>
    let target := if body.target.truthy then some (trim text) else none
    if body.type.truthy then
      match channelType body.type with
      | none => throw (.api 400 "Invalid type")
      | some type => return ⟨active, target, type⟩
    else return ⟨active, target, none⟩

/-- The channel after an update. -/
def ChannelUpdate.apply (u : ChannelUpdate) (c : Channel) : Channel :=
  { c with
    active := u.active.getD c.active
    target := (u.target.map String.ofList).getD c.target
    type := u.type.getD c.type }

/-- The validators of the schema reject an empty target. -/
def targetRequired : JsError := ⟨"Validation failed: target: Path `target` is required.", none⟩

/-- `updateChannel`. -/
def updateChannel (owner channelId : ℕ) (body : Option ChannelBody) (docs : List Channel) :
    Except Thrown (ApiResponse Channel) × List Channel :=
  match body with
  | none => (.error (.js ⟨"Cannot read properties of undefined (reading 'active')", none⟩), docs)
  | some body =>
    match channelUpdate rt body with
    | .error err => (.error err, docs)
    | .ok update =>
      if update.target = some [] then (.error (.js targetRequired), docs)
      else match docs.find? (Channel.isOwners owner channelId) with
        | none => (.error (.api 404 "Channel not found"), docs)
        | some c => (.ok ⟨200, update.apply c, "Channel updated successfully"⟩,
            updateFirst (Channel.isOwners owner channelId) update.apply docs)

/-! ## Requests -/

/-- A request to one of the endpoints. A create is given the id of the channel. -/
inductive ChannelCall
  | create (owner id : ℕ) (body : Option ChannelBody)
  | update (owner channelId : ℕ) (body : Option ChannelBody)

/-- What a request is answered, and the collection after it. -/
def ChannelCall.serve (docs : List Channel) :
    ChannelCall → Except Thrown (ApiResponse Channel) × List Channel
  | .create owner id body => createChannel rt owner id body docs
  | .update owner channelId body => updateChannel rt owner channelId body docs

/-- The id of a create is new. -/
def ChannelCall.HasNewId (docs : List Channel) : ChannelCall → Prop
  | .create _ id _ => ∀ c ∈ docs, c.id ≠ id
  | .update _ _ _ => True

/-- One request. -/
def ChannelStep (docs : List Channel) (call : ChannelCall) (docs' : List Channel) : Prop :=
  call.HasNewId docs ∧ docs' = (call.serve rt docs).2

/-- What a channel is unique by. -/
def Channel.key (c : Channel) : ℕ × ChannelType × String := (c.userId, c.type, c.target)

/-- An e-mail channel has an address. -/
def Channel.HasAddress (c : Channel) : Prop :=
  c.type = .email → looksLikeEmail c.target.toList = true

/-- **Well-formed channels**: no owner has two with the same type and target, and those of type
e-mail have an address. -/
structure WellFormedChannels (docs : List Channel) : Prop where
  unique : UniqueKey Channel.key docs
  addresses : ∀ c ∈ docs, c.HasAddress

/-- The fields that an update sets, and the channel that it is for, if its fields are valid and the
channel is found. -/
def foundUpdate (owner channelId : ℕ) (body : Option ChannelBody) (docs : List Channel) :
    Option (ChannelUpdate × Channel) :=
  match body with
  | none => none
  | some body =>
    match channelUpdate rt body with
    | .error _ => none
    | .ok update =>
      if update.target = some [] then none
      else (docs.find? (Channel.isOwners owner channelId)).map fun c => (update, c)

/-- What a create checks holds of what an update makes of the channel: it is no other channel of the
owner, and has an address if it is of type e-mail. -/
def ChannelCall.Checked (docs : List Channel) : ChannelCall → Prop
  | .create _ _ _ => True
  | .update owner channelId body => ∀ update c,
    foundUpdate rt owner channelId body docs = some (update, c) →
    (∀ other ∈ docs, other.userId = owner → other.id ≠ channelId →
      ¬(other.type = (update.apply c).type ∧ other.target = (update.apply c).target)) ∧
    (update.apply c).HasAddress

/-! ## The pattern -/

lemma matchesAfter_iff {c : Char} {rest : Text → Bool} {s : Text} :
    matchesAfter c rest s = true ↔ ∃ a t, a ≠ [] ∧ s = a ++ c :: t ∧ rest t = true := by
  simp only [matchesAfter, List.any_eq_true, List.mem_tails, Bool.and_eq_true, decide_eq_true_eq]
  constructor
  · rintro ⟨u, ⟨a, ha⟩, hhead, hrest⟩
    cases s with
    | nil =>
      obtain rfl : u = [] := (List.append_eq_nil_iff.1 ha).2
      cases hhead
    | cons d s =>
      refine ⟨d :: a, u.tail, List.cons_ne_nil d a, ?_, hrest⟩
      rw [List.cons_append, List.cons_head?_tail hhead, ha, List.tail_cons]
  · rintro ⟨a, t, ha, rfl, hrest⟩
    refine ⟨c :: t, ?_, rfl, hrest⟩
    rw [List.tail_append_of_ne_nil ha]
    exact List.suffix_append _ _

/-- **What the pattern matches**: an `@` and, later, a dot, with text around them and no white
space. -/
theorem looksLikeEmail_iff {s : Text} :
    looksLikeEmail s = true ↔ (∀ c ∈ s, isWhiteSpace c = false) ∧
      ∃ a b c, a ≠ [] ∧ b ≠ [] ∧ c ≠ [] ∧ s = a ++ '@' :: (b ++ '.' :: c) := by
  simp only [looksLikeEmail, Bool.and_eq_true, List.all_eq_true, Bool.not_eq_true',
    matchesAfter_iff, decide_eq_true_eq]
  refine and_congr_right fun _ => ⟨?_, ?_⟩
  · rintro ⟨a, t, ha, rfl, b, c, hb, rfl, hc⟩
    exact ⟨a, b, c, ha, hb, hc, rfl⟩
  · rintro ⟨a, b, c, ha, hb, hc, rfl⟩
    exact ⟨a, _, ha, rfl, b, c, hb, rfl, hc⟩

/-- An address has no white space to trim. -/
lemma trim_of_looksLikeEmail {s : Text} (h : looksLikeEmail s = true) : trim s = s :=
  trim_of_forall (looksLikeEmail_iff.1 h).1

/-! ## What requests do -/

variable {rt} {docs docs' : List Channel} {call : ChannelCall} {owner id channelId : ℕ}
  {body : Option ChannelBody}

/-- A channel that is added: it has the owner and the id, is no channel of the owner yet, and has an
address if it is of type e-mail. -/
lemma newChannel_eq_ok {given : ChannelBody} {c : Channel}
    (h : newChannel rt owner id given docs = .ok c) :
    c.userId = owner ∧ c.id = id ∧ c.HasAddress ∧ ∀ other ∈ docs, other.key ≠ c.key := by
  unfold newChannel at h
  cases htarget : targetText rt given.target with
  | error err =>
    rw [htarget] at h
    cases h
  | ok target =>
    rw [htarget] at h
    dsimp only at h
    split_ifs at h with hblank htype hemail hfound
    obtain rfl := Except.ok.inj h
    refine ⟨rfl, rfl, fun hc => ?_, fun other hother hkey => hfound ?_⟩
    · have haddress : looksLikeEmail target = true :=
        Bool.eq_true_of_not_eq_false fun hfalse => hemail ⟨hc, hfalse⟩
      rw [String.toList_ofList, trim_of_looksLikeEmail haddress, haddress]
    · rw [List.any_eq_true]
      refine ⟨other, hother, ?_⟩
      simp only [Channel.key, Prod.mk.injEq] at hkey
      simp [Channel.isAt, hkey]

/-- A create fails and adds nothing, or adds such a channel. -/
lemma createChannel_cases (rt : TextRuntime) (owner id : ℕ) (body : Option ChannelBody)
    (docs : List Channel) :
    (createChannel rt owner id body docs).2 = docs ∨
      ∃ c, (createChannel rt owner id body docs).2 = docs ++ [c] ∧ c.id = id ∧ c.HasAddress ∧
        ∀ other ∈ docs, other.key ≠ c.key := by
  cases body with
  | none => exact .inl rfl
  | some given =>
    rw [createChannel]
    cases hnew : newChannel rt owner id given docs with
    | error err => exact .inl rfl
    | ok c =>
      obtain ⟨-, hid, haddress, hfree⟩ := newChannel_eq_ok hnew
      exact .inr ⟨c, rfl, hid, haddress, hfree⟩

/-- An update changes the channel that it finds, if it finds one. -/
lemma updateChannel_snd (owner channelId : ℕ) (body : Option ChannelBody) (docs : List Channel) :
    (updateChannel rt owner channelId body docs).2 =
      match foundUpdate rt owner channelId body docs with
      | none => docs
      | some (update, _) => updateFirst (Channel.isOwners owner channelId) update.apply docs := by
  unfold updateChannel foundUpdate
  cases body with
  | none => rfl
  | some given =>
    dsimp only
    cases channelUpdate rt given with
    | error err => rfl
    | ok update =>
      dsimp only
      split_ifs with hempty
      · rfl
      · cases docs.find? (Channel.isOwners owner channelId) <;> rfl

/-- The channel that an update finds is one of the owner's. -/
lemma found_of_foundUpdate {update : ChannelUpdate} {c : Channel}
    (h : foundUpdate rt owner channelId body docs = some (update, c)) :
    c ∈ docs ∧ Channel.isOwners owner channelId c = true := by
  unfold foundUpdate at h
  split at h
  · cases h
  · split at h
    · cases h
    · split_ifs at h with hempty
      obtain ⟨found, hfound, hpair⟩ := Option.map_eq_some_iff.1 h
      obtain ⟨-, rfl⟩ := Prod.mk.inj hpair
      exact ⟨List.mem_of_find?_eq_some hfound, List.find?_some hfound⟩

/-- No two channels have the same id. -/
def UniqueChannelIds (docs : List Channel) : Prop := UniqueKey Channel.id docs

/-- A filter for an id matches at most one channel. -/
lemma UniqueChannelIds.countP_le_one (h : UniqueChannelIds docs) (owner channelId : ℕ) :
    docs.countP (Channel.isOwners owner channelId) ≤ 1 := by
  refine countP_le_one_of_uniqueKey h (k := channelId) fun c hc => ?_
  rw [Channel.isOwners, Bool.and_eq_true] at hc
  exact of_decide_eq_true hc.1

/-- **Ids are unique.** -/
lemma ChannelStep.uniqueIds (h : ChannelStep rt docs call docs') (hids : UniqueChannelIds docs) :
    UniqueChannelIds docs' := by
  obtain ⟨hnew, rfl⟩ := h
  cases call with
  | create owner id body =>
    rcases createChannel_cases rt owner id body docs with hsame | ⟨c, hadd, hid, -, -⟩
    · rwa [ChannelCall.serve, hsame]
    · rw [ChannelCall.serve, hadd]
      refine uniqueKey_concat.2 ⟨hids, fun other hother => ?_⟩
      rw [hid]
      exact hnew other hother
  | update owner channelId body =>
    rw [ChannelCall.serve, updateChannel_snd]
    cases foundUpdate rt owner channelId body docs with
    | none => exact hids
    | some found => exact (uniqueKey_updateFirst_of_eq (f := found.1.apply) fun _ _ => rfl).2 hids

/-- **An update keeps channels well formed** exactly when what it makes of the channel is
checked. -/
lemma wellFormedChannels_update_iff (update : ChannelUpdate) {c : Channel}
    (hids : UniqueChannelIds docs) (hdocs : WellFormedChannels docs) (hmem : c ∈ docs)
    (howners : Channel.isOwners owner channelId c = true) :
    WellFormedChannels (updateFirst (Channel.isOwners owner channelId) update.apply docs) ↔
      (∀ other ∈ docs, other.userId = owner → other.id ≠ channelId →
        ¬(other.type = (update.apply c).type ∧ other.target = (update.apply c).target)) ∧
      (update.apply c).HasAddress := by
  have hone := hids.countP_le_one owner channelId
  have hunique : UniqueKey Channel.key
      (updateFirst (Channel.isOwners owner channelId) update.apply docs) ↔
      ∀ other ∈ docs, other.userId = owner → other.id ≠ channelId →
        ¬(other.type = (update.apply c).type ∧ other.target = (update.apply c).target) := by
    rw [uniqueKey_updateFirst_iff hdocs.unique hone hmem howners]
    have hkey : (update.apply c).userId = owner := by
      rw [Channel.isOwners, Bool.and_eq_true] at howners
      exact of_decide_eq_true howners.2
    refine forall₂_congr fun other _ => ?_
    simp only [Channel.isOwners, Channel.key, Prod.mk.injEq, Ne, Bool.and_eq_false_iff,
      decide_eq_false_iff_not, hkey]
    tauto
  constructor
  · intro h
    exact ⟨hunique.1 h.unique, h.addresses _ ((mem_updateFirst_iff hone hmem howners).2 (.inl rfl))⟩
  · rintro ⟨hnew, haddress⟩
    refine ⟨hunique.2 hnew, fun c' hc' => ?_⟩
    rcases (mem_updateFirst_iff hone hmem howners).1 hc' with rfl | ⟨hc', -⟩
    · exact haddress
    · exact hdocs.addresses c' hc'

/-- **What holds between requests**, as long as the channels are well formed. -/
structure ChannelsKept (docs : List Channel) : Prop where
  ids : UniqueChannelIds docs
  wellFormed : WellFormedChannels docs

/-- What one request does to the channels. -/
lemma wellFormedChannels_step_iff (hkept : ChannelsKept docs) (h : ChannelStep rt docs call docs') :
    WellFormedChannels docs' ↔ call.Checked rt docs := by
  obtain ⟨hids, hdocs⟩ := hkept
  rw [h.2]
  cases call with
  | create owner id body =>
    refine iff_of_true ?_ trivial
    rcases createChannel_cases rt owner id body docs with
      hsame | ⟨c, hadd, -, haddress, hfree⟩
    · rwa [ChannelCall.serve, hsame]
    · rw [ChannelCall.serve, hadd]
      refine ⟨uniqueKey_concat.2 ⟨hdocs.unique, hfree⟩, fun c' hc' => ?_⟩
      rcases List.mem_append.1 hc' with hc' | hc'
      · exact hdocs.addresses c' hc'
      · obtain rfl := List.mem_singleton.1 hc'
        exact haddress
  | update owner channelId body =>
    rw [ChannelCall.serve, updateChannel_snd, ChannelCall.Checked]
    cases hfound : foundUpdate rt owner channelId body docs with
    | none => exact iff_of_true hdocs fun update c h => by cases h
    | some found =>
      obtain ⟨update, c⟩ := found
      obtain ⟨hmem, howners⟩ := found_of_foundUpdate hfound
      have hiff := wellFormedChannels_update_iff update hids hdocs hmem howners
      constructor
      · rintro hafter _ _ ⟨⟩
        exact hiff.1 hafter
      · exact fun hchecked => hiff.2 (hchecked update c rfl)

/-- **Channels stay well formed** exactly when what every update makes of its channel is no other
channel of the owner, and has an address if it is of type e-mail. -/
theorem wellFormedChannels_iff (rt : TextRuntime) (calls : List ChannelCall) :
    AllSteps (ChannelStep rt) (fun _ _ docs' => WellFormedChannels docs') [] calls ↔
      AllSteps (ChannelStep rt) (fun docs call _ => call.Checked rt docs) [] calls := by
  have hempty : ChannelsKept [] := ⟨uniqueKey_nil, uniqueKey_nil, List.forall_mem_nil _⟩
  refine allSteps_iff (fun docs call docs' hdocs hstep => ?_)
    (fun docs call docs' hdocs hstep hchecked => ?_) hempty calls
  · exact wellFormedChannels_step_iff hdocs hstep
  · exact ⟨hstep.uniqueIds hdocs.ids, (wellFormedChannels_step_iff hdocs hstep).2 hchecked⟩

/-- A webhook is turned into an e-mail channel, with its old target. -/
theorem webhook_not_wellFormed :
    ¬AllSteps (ChannelStep TextRuntime.ascii) (fun _ _ docs' => WellFormedChannels docs') []
      [.create 1 1 (some ⟨.str "Webhook", .str "https://a.b", .undefined⟩),
        .update 1 1 (some ⟨.str "Email", .undefined, .undefined⟩)] := by
  intro h
  have hsecond := (allSteps_cons.1 h _ ⟨List.forall_mem_nil _, rfl⟩).2
  have hafter := (allSteps_cons.1 hsecond _ ⟨trivial, rfl⟩).1
  have haddress := hafter.addresses _ List.mem_cons_self rfl
  revert haddress
  decide

end WatchTower
