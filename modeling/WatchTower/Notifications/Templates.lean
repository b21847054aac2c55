import Mathlib.Data.Rat.Defs
import WatchTower.Encoding.Markup
import WatchTower.Encoding.Unicode
import WatchTower.Runtime.Js

set_option relaxedAutoImplicit false
set_option autoImplicit false

/-!
# The e-mail templates

`notifications/templates.js`. Titles, addresses, reasons, names and summaries come from users and
from remote servers. They are escaped and put between tags, so the tags of a mail do not depend on
them. The literals are those of the source, with its lines.

## Main definitions

* `WatchTower.escapeHtml`, `WatchTower.shell`, `WatchTower.row`.
* `WatchTower.incidentOpenedEmail`, `WatchTower.incidentClosedEmail` — the templates.
* `WatchTower.htmlTags` — the tags of a mail.
* `WatchTower.MailFields.SameBlanks` — two mails have their blanks in the same fields.

## Main results

* `WatchTower.escapeHtml_eq`, `WatchTower.escapeHtml_injective` — escaping replaces each character
  once, and can be undone.
* `WatchTower.templates_inert` — mails with the same blanks have the same tags.
-/

namespace WatchTower

open Encoding

/-- `<`. -/
def lessThan : UInt16 := 0x3C

/-- `>`. -/
def greaterThan : UInt16 := 0x3E

/-- The tags of an HTML text. -/
def htmlTags (html : Units) : List Units := Markup.tags lessThan greaterThan html

/-- A literal part of a template. -/
def literal (s : String) : Units := units s.toList

/-- `String(value ?? '')`. -/
def orEmpty (value : Option Units) : Units := value.getD []

/-- `escapeHtml`. -/
def escapeHtml (value : Option Units) : Units :=
  let s := orEmpty value
  let s := replaceAll 0x26 (literal "&amp;") s
  let s := replaceAll lessThan (literal "&lt;") s
  let s := replaceAll greaterThan (literal "&gt;") s
  let s := replaceAll 0x22 (literal "&quot;") s
  replaceAll 0x27 (literal "&#39;") s

/-- The part of `shell` between the two headings. -/
def banner (accent : Units) : Units :=
  literal "</title></head>
<body style=\"margin:0; padding:0; font-family: Arial, sans-serif; background-color:#f4f6f8;\">
  <table width=\"100%\" cellpadding=\"0\" cellspacing=\"0\" style=\"padding:20px;\">
    <tr><td align=\"center\">
      <table width=\"600\" cellpadding=\"0\" cellspacing=\"0\" style=\"background:#ffffff; border-radius:10px; overflow:hidden; box-shadow:0 4px 12px rgba(0,0,0,0.1);\">
        <tr>
          <td style=\"background:" ++ accent ++
    literal "; color:#ffffff; padding:20px; text-align:center;\">
            <h2 style=\"margin:0;\">"

/-- `shell`. -/
def shell (accent heading body : Units) : Units :=
  [literal "<!DOCTYPE html>
<html>
<head><meta charset=\"UTF-8\" /><title>",
    escapeHtml heading,
    banner accent,
    escapeHtml heading,
    literal "</h2>
          </td>
        </tr>
        <tr><td style=\"padding:20px; color:#333;\">",
    body,
    literal "</td></tr>
        <tr>
          <td style=\"background:#f4f6f8; padding:15px; text-align:center; font-size:12px; color:#888;\">
            WatchTower Monitoring System<br/>
            This is an automated alert. Please do not reply.
          </td>
        </tr>
      </table>
    </td></tr>
  </table>
</body>
</html>"].flatten

/-- The part of `row` before the value. -/
def labelled (label : Units) : Units :=
  literal "
  <tr>
    <td style=\"font-weight:bold;\">" ++ label ++ literal "</td>
    <td>"

/-- `row`. -/
def row (label : Units) (value : Option Units) : Units :=
  [labelled label,
    escapeHtml value,
    literal "</td>
  </tr>"].flatten

/-- The functions of the runtime that write numbers and dates. -/
structure MailRuntime where
  /-- `String(n)`. -/
  ofNumber : ℚ → Units
  /-- `n.toFixed(1)`. -/
  toFixed : ℚ → Units
  /-- `date.toLocaleString()`. -/
  toLocaleString : JsDate → Units

/-- What a template reads of its argument, where absent fields may be those of absent objects. -/
structure MailFields where
  /-- `user.username`. -/
  username : Option Units
  /-- `monitor.title`. -/
  title : Option Units
  /-- `monitor.url`. -/
  url : Option Units
  /-- `monitor.failureThreshold`. -/
  failureThreshold : Option ℚ
  /-- `incident.reason`. -/
  reason : Option Units
  /-- `incident.aiSummary`. -/
  aiSummary : Option Units
  /-- `incident.duration`, in seconds. -/
  duration : Option ℚ
  /-- `occurredAt`. -/
  occurredAt : Option JsDate
  /-- `new Date()`. -/
  now : JsDate

/-- A mail. -/
structure Mail where
  /-- `subject`. -/
  subject : Units
  /-- `html`. -/
  html : Units

/-- `value || text`. -/
def orElse (value : Option Units) (text : String) : Units :=
  if orEmpty value = [] then literal text else orEmpty value

/-- The first paragraph of both mails. -/
def greeting (f : MailFields) : Units :=
  [literal "
    <p style=\"font-size:16px;\">Hello <strong>",
    escapeHtml (orElse f.username "User"),
    literal "</strong>,</p>"].flatten

/-- The analysis, if there is one. -/
def analysis (f : MailFields) : Units :=
  if orEmpty f.aiSummary = [] then []
  else
    [literal "<div style=\"background:#f9fafb; border-left:4px solid #6366f1; padding:15px; border-radius:6px;\">
             <p style=\"margin:0; font-weight:bold;\">🤖 AI Analysis</p>
             <p style=\"margin-top:8px; font-size:14px; color:#555;\">",
      escapeHtml f.aiSummary,
      literal "</p>
           </div>"].flatten

/-- `incidentOpenedEmail`. -/
def incidentOpenedEmail (rt : MailRuntime) (f : MailFields) : Mail where
  subject := literal "🚨 Incident: " ++ orElse f.title "your monitor" ++ literal " is DOWN"
  html := shell (literal "#ef4444") (literal "🚨 Incident Detected")
    [greeting f,
      literal "
    <p style=\"font-size:15px;\">An issue has been detected with your monitored service:</p>
    <table width=\"100%\" cellpadding=\"10\" cellspacing=\"0\" style=\"margin:15px 0; border:1px solid #eee; border-radius:6px;\">
      ",
      row (literal "📍 Title:") (orElse f.title "Untitled monitor"),
      literal "
      ",
      row (literal "🌐 URL:") f.url,
      literal "
      ",
      row (literal "⚠️ Reason:") (orElse f.reason "Monitor is down"),
      literal "
      ",
      row (literal "🔁 Failed checks:")
        (rt.ofNumber (f.failureThreshold.getD 3) ++ literal " consecutive"),
      literal "
      ",
      row (literal "🕒 Time:") (rt.toLocaleString (f.occurredAt.getD f.now)),
      literal "
    </table>
    ",
      analysis f,
      literal "
    <p style=\"margin-top:20px; font-size:14px; color:#666;\">
      Please check your system as soon as possible to minimize downtime.
    </p>"].flatten

/-- A duration, readable. -/
def readable (rt : MailRuntime) (seconds : ℚ) : Units :=
  if 3600 ≤ seconds then rt.toFixed (seconds / 3600) ++ literal " hours"
  else if 60 ≤ seconds then rt.toFixed (seconds / 60) ++ literal " minutes"
  else rt.ofNumber seconds ++ literal " seconds"

/-- `incidentClosedEmail`. -/
def incidentClosedEmail (rt : MailRuntime) (f : MailFields) : Mail where
  subject := literal "✅ Resolved: " ++ orElse f.title "your monitor" ++ literal " is back UP"
  html := shell (literal "#22c55e") (literal "✅ Issue Resolved")
    [greeting f,
      literal "
    <p style=\"font-size:15px;\">Good news — your monitored service is back online.</p>
    <table width=\"100%\" cellpadding=\"10\" cellspacing=\"0\" style=\"margin:15px 0; border:1px solid #eee; border-radius:6px;\">
      ",
      row (literal "📍 Title:") (orElse f.title "Untitled monitor"),
      literal "
      ",
      row (literal "🌐 URL:") f.url,
      literal "
      ",
      row (literal "🕒 Downtime:") (readable rt (f.duration.getD 0)),
      literal "
      ",
      row (literal "⏱️ Resolved at:") (rt.toLocaleString (f.occurredAt.getD f.now)),
      literal "
    </table>
    <div style=\"margin-top:15px; padding:15px; background:#ecfdf5; border-left:4px solid #22c55e; border-radius:6px;\">
      <p style=\"margin:0; font-weight:bold;\">Status</p>
      <p style=\"margin-top:8px; font-size:14px; color:#065f46;\">Your service is now operating normally.</p>
    </div>"].flatten

/-- Two mails have their blanks in the same fields. Nothing else is asked of what is in them. -/
structure MailFields.SameBlanks (f g : MailFields) : Prop where
  username : orEmpty f.username = [] ↔ orEmpty g.username = []
  title : orEmpty f.title = [] ↔ orEmpty g.title = []
  url : orEmpty f.url = [] ↔ orEmpty g.url = []
  reason : orEmpty f.reason = [] ↔ orEmpty g.reason = []
  aiSummary : orEmpty f.aiSummary = [] ↔ orEmpty g.aiSummary = []

/-! ## Escaping -/

/-- The code units of a literal, for a list of its characters. -/
lemma literal_eq {s : String} {l : List Char} (hs : s = String.ofList l) :
    literal s = units l := by
  rw [literal, hs, String.toList_ofList]

/-- What a character is replaced by. -/
def entity (c : UInt16) : Units :=
  if c = 0x26 then [0x26, 0x61, 0x6D, 0x70, 0x3B]
  else if c = lessThan then [0x26, 0x6C, 0x74, 0x3B]
  else if c = greaterThan then [0x26, 0x67, 0x74, 0x3B]
  else if c = 0x22 then [0x26, 0x71, 0x75, 0x6F, 0x74, 0x3B]
  else if c = 0x27 then [0x26, 0x23, 0x33, 0x39, 0x3B]
  else [c]

/-- The characters that are replaced. -/
def specials : Units := [0x26, lessThan, greaterThan, 0x22, 0x27]

/-- The others are kept. -/
lemma entity_of_not_mem {c : UInt16} (h : c ∉ specials) : entity c = [c] := by
  simp only [specials, List.mem_cons, List.not_mem_nil, or_false, not_or] at h
  obtain ⟨hamp, hlt, hgt, hquot, hapos⟩ := h
  rw [entity, if_neg hamp, if_neg hlt, if_neg hgt, if_neg hquot, if_neg hapos]

/-- **Escaping replaces each character once**: no replacement holds what is replaced later. -/
theorem escapeHtml_eq (value : Option Units) :
    escapeHtml value = (orEmpty value).flatMap entity := by
  have hamp : literal "&amp;" = units ['&', 'a', 'm', 'p', ';'] := literal_eq rfl
  have hlt : literal "&lt;" = units ['&', 'l', 't', ';'] := literal_eq rfl
  have hgt : literal "&gt;" = units ['&', 'g', 't', ';'] := literal_eq rfl
  have hquot : literal "&quot;" = units ['&', 'q', 'u', 'o', 't', ';'] := literal_eq rfl
  have hapos : literal "&#39;" = units ['&', '#', '3', '9', ';'] := literal_eq rfl
  unfold escapeHtml replaceAll
  dsimp only
  rw [hamp, hlt, hgt, hquot, hapos]
  rw [List.flatMap_assoc, List.flatMap_assoc, List.flatMap_assoc, List.flatMap_assoc]
  refine List.flatMap_congr fun c _ => ?_
  by_cases hc : c ∈ specials
  · simp only [specials, List.mem_cons, List.not_mem_nil, or_false] at hc
    rcases hc with rfl | rfl | rfl | rfl | rfl <;> decide +kernel
  · rw [entity_of_not_mem hc]
    simp only [specials, List.mem_cons, List.not_mem_nil, or_false, not_or] at hc
    simp [hc]

/-- A replacement begins with an ampersand. -/
lemma head_entity {c : UInt16} (h : c ∈ specials) : (entity c).head? = some 0x26 := by
  have hall : specials.all (fun c => (entity c).head? = some 0x26) = true := by decide +kernel
  exact of_decide_eq_true (List.all_eq_true.1 hall c h)

/-- No replacement is the beginning of another, or of a character. -/
lemma eq_of_entity_prefix (c d : UInt16) (h : entity c <+: entity d) : c = d := by
  by_cases hc : c ∈ specials
  · by_cases hd : d ∈ specials
    · have hall : specials.all (fun c => specials.all fun d => entity c <+: entity d → c = d) =
          true := by decide +kernel
      exact of_decide_eq_true (List.all_eq_true.1 (List.all_eq_true.1 hall c hc) d hd) h
    · have hlong : specials.all (fun c => 1 < (entity c).length) = true := by decide +kernel
      have hlt := of_decide_eq_true (List.all_eq_true.1 hlong c hc)
      have hle := h.length_le
      rw [entity_of_not_mem hd, List.length_singleton] at hle
      omega
  · rw [entity_of_not_mem hc] at h
    obtain ⟨rest, hrest⟩ := h
    by_cases hd : d ∈ specials
    · have hhead := head_entity hd
      rw [← hrest] at hhead
      obtain rfl : c = 0x26 := Option.some.inj hhead
      exact absurd (by decide) hc
    · rw [entity_of_not_mem hd] at hrest
      exact (List.cons.inj hrest).1

/-- **Escaping can be undone.** -/
theorem escapeHtml_injective {s t : Units} (h : escapeHtml (some s) = escapeHtml (some t)) :
    s = t := by
  rw [escapeHtml_eq, escapeHtml_eq] at h
  have hne : ∀ c, entity c ≠ [] := by
    intro c hc
    by_cases hspecial : c ∈ specials
    · have hhead := head_entity hspecial
      rw [hc] at hhead
      cases hhead
    · rw [entity_of_not_mem hspecial] at hc
      cases hc
  exact flatMap_injective hne eq_of_entity_prefix h

/-- **What is escaped** holds no delimiter of tags or of attributes. -/
theorem not_mem_escapeHtml {c : UInt16} (hc : c ∈ [lessThan, greaterThan, 0x22, 0x27])
    (value : Option Units) : c ∉ escapeHtml value := by
  rw [escapeHtml_eq, List.mem_flatMap]
  rintro ⟨d, -, hmem⟩
  by_cases hd : d ∈ specials
  · have hall : [lessThan, greaterThan, 0x22, 0x27].all (fun c =>
        specials.all fun d => c ∉ entity d) = true := by decide +kernel
    exact of_decide_eq_true (List.all_eq_true.1 (List.all_eq_true.1 hall c hc) d hd) hmem
  · rw [entity_of_not_mem hd, List.mem_singleton] at hmem
    have hall : [lessThan, greaterThan, 0x22, 0x27].all (fun c => c ∈ specials) = true := by
      decide +kernel
    exact hd (hmem ▸ of_decide_eq_true (List.all_eq_true.1 hall c hc))

/-! ## Templates -/

/-- Two parts of a template are whole and have the same tags. -/
structure SameTags (s t : Units) : Prop where
  left : Markup.Whole lessThan greaterThan s
  right : Markup.Whole lessThan greaterThan t
  tags_eq : htmlTags s = htmlTags t

/-- What does not change has the same tags. -/
lemma SameTags.refl {s : Units} (h : Markup.Whole lessThan greaterThan s) : SameTags s s :=
  ⟨h, h, rfl⟩

/-- Where a literal ends. -/
lemma endsInTag_literal {s : String} {l : List Char} {inTag ends : Bool} (hs : s = String.ofList l)
    (h : Markup.endsInTag lessThan greaterThan inTag (units l) = ends) :
    Markup.endsInTag lessThan greaterThan inTag (literal s) = ends := by
  rw [literal_eq hs, h]

/-- A literal that ends outside of a tag. -/
lemma SameTags.literal {s : String} {l : List Char} (hs : s = String.ofList l)
    (h : Markup.endsInTag lessThan greaterThan false (units l) = false) :
    SameTags (literal s) (literal s) :=
  .refl ((Markup.whole_iff _ _ _).1 (endsInTag_literal hs h))

/-- Escaped values have the same tags: none. -/
lemma sameTags_escapeHtml (v w : Option Units) : SameTags (escapeHtml v) (escapeHtml w) := by
  have hnone : ∀ v,
      Markup.Whole lessThan greaterThan (escapeHtml v) ∧ htmlTags (escapeHtml v) = [] :=
    fun v => Markup.tags_of_not_mem (not_mem_escapeHtml (by decide) v)
  exact ⟨(hnone v).1, (hnone w).1, (hnone v).2.trans (hnone w).2.symm⟩

/-- **Templates whose parts have the same tags** have the same tags. -/
lemma SameTags.flatten {parts parts' : List Units} (h : List.Forall₂ SameTags parts parts') :
    SameTags parts.flatten parts'.flatten := by
  induction h with
  | nil => exact .refl rfl
  | cons hhead _ ih =>
    refine ⟨hhead.left.append ih.left, hhead.right.append ih.right, ?_⟩
    rw [htmlTags, htmlTags, List.flatten_cons, List.flatten_cons, Markup.tags_append hhead.left,
      Markup.tags_append hhead.right]
    exact congrArg₂ _ hhead.tags_eq ih.tags_eq

/-- A row with a label of its own. -/
lemma sameTags_row {label : String} {l : List Char} (hs : label = String.ofList l)
    (hlabel : Markup.endsInTag lessThan greaterThan false (units l) = false) (v w : Option Units) :
    SameTags (row (literal label) v) (row (literal label) w) := by
  have hwhole : Markup.Whole lessThan greaterThan (labelled (literal label)) := by
    rw [← Markup.whole_iff]
    exact Markup.endsInTag_trans
      (Markup.endsInTag_trans (endsInTag_literal rfl (show _ = false by decide +kernel))
        (endsInTag_literal hs hlabel)) (endsInTag_literal rfl (by decide +kernel))
  refine .flatten ?_
  simp only [List.forall₂_cons, List.Forall₂.nil, and_true]
  exact ⟨.refl hwhole, sameTags_escapeHtml v w, .literal rfl (by decide +kernel)⟩

/-- The greetings. -/
lemma sameTags_greeting (f g : MailFields) : SameTags (greeting f) (greeting g) := by
  refine .flatten ?_
  simp only [List.forall₂_cons, List.Forall₂.nil, and_true]
  exact ⟨.literal rfl (by decide +kernel), sameTags_escapeHtml _ _,
    .literal rfl (by decide +kernel)⟩

set_option maxRecDepth 4000 in
/-- The analyses, if both mails have one or neither has. -/
lemma sameTags_analysis {f g : MailFields}
    (h : orEmpty f.aiSummary = [] ↔ orEmpty g.aiSummary = []) :
    SameTags (analysis f) (analysis g) := by
  by_cases hf : orEmpty f.aiSummary = []
  · rw [analysis, analysis, if_pos hf, if_pos (h.1 hf)]
    exact .refl rfl
  · rw [analysis, analysis, if_neg hf, if_neg fun hg => hf (h.2 hg)]
    refine .flatten ?_
    simp only [List.forall₂_cons, List.Forall₂.nil, and_true]
    exact ⟨.literal rfl (by decide +kernel), sameTags_escapeHtml _ _,
      .literal rfl (by decide +kernel)⟩

set_option maxRecDepth 16000 in
/-- The part between the headings ends outside of a tag, if the accent has no delimiter. -/
lemma whole_banner {accent : String} {l : List Char} (hs : accent = String.ofList l)
    (haccent : Markup.endsInTag lessThan greaterThan true (units l) = true) :
    Markup.Whole lessThan greaterThan (banner (literal accent)) := by
  rw [← Markup.whole_iff]
  exact Markup.endsInTag_trans
    (Markup.endsInTag_trans (endsInTag_literal rfl (show _ = true by decide +kernel))
      (endsInTag_literal hs haccent)) (endsInTag_literal rfl (by decide +kernel))

set_option maxRecDepth 16000 in
/-- The shell around two bodies. -/
lemma sameTags_shell {accent heading body body' : Units}
    (haccent : Markup.Whole lessThan greaterThan (banner accent)) (hbody : SameTags body body') :
    SameTags (shell accent heading body) (shell accent heading body') := by
  refine .flatten ?_
  simp only [List.forall₂_cons, List.Forall₂.nil, and_true]
  exact ⟨.literal rfl (by decide +kernel), sameTags_escapeHtml _ _, .refl haccent,
    sameTags_escapeHtml _ _, .literal rfl (by decide +kernel), hbody,
    .literal rfl (by decide +kernel)⟩

set_option maxRecDepth 16000 in
/-- The mails about an opened incident. -/
theorem sameTags_incidentOpenedEmail (rt : MailRuntime) {f g : MailFields}
    (h : orEmpty f.aiSummary = [] ↔ orEmpty g.aiSummary = []) :
    SameTags (incidentOpenedEmail rt f).html (incidentOpenedEmail rt g).html := by
  have hspace : SameTags (literal "
      ") (literal "
      ") := .literal rfl (by decide +kernel)
  refine sameTags_shell (whole_banner rfl (by decide +kernel)) (.flatten ?_)
  simp only [List.forall₂_cons, List.Forall₂.nil, and_true]
  exact ⟨sameTags_greeting f g, .literal rfl (by decide +kernel),
    sameTags_row rfl (by decide +kernel) _ _, hspace, sameTags_row rfl (by decide +kernel) _ _,
    hspace, sameTags_row rfl (by decide +kernel) _ _, hspace,
    sameTags_row rfl (by decide +kernel) _ _, hspace, sameTags_row rfl (by decide +kernel) _ _,
    .literal rfl (by decide +kernel), sameTags_analysis h, .literal rfl (by decide +kernel)⟩

set_option maxRecDepth 16000 in
/-- The mails about a closed incident. -/
theorem sameTags_incidentClosedEmail (rt : MailRuntime) (f g : MailFields) :
    SameTags (incidentClosedEmail rt f).html (incidentClosedEmail rt g).html := by
  have hspace : SameTags (literal "
      ") (literal "
      ") := .literal rfl (by decide +kernel)
  refine sameTags_shell (whole_banner rfl (by decide +kernel)) (.flatten ?_)
  simp only [List.forall₂_cons, List.Forall₂.nil, and_true]
  exact ⟨sameTags_greeting f g, .literal rfl (by decide +kernel),
    sameTags_row rfl (by decide +kernel) _ _, hspace, sameTags_row rfl (by decide +kernel) _ _,
    hspace, sameTags_row rfl (by decide +kernel) _ _, hspace,
    sameTags_row rfl (by decide +kernel) _ _, .literal rfl (by decide +kernel)⟩

/-- **The templates are inert**: mails with their blanks in the same fields have the same tags, and
escaped text has no delimiters and determines what it was.

**Proof sketch.** Every field is escaped and stands between whole parts, so it contributes no tags.
Only the analysis comes with tags of its own, when there is one. -/
theorem templates_inert (rt : MailRuntime) :
    (∀ f g : MailFields, f.SameBlanks g →
      htmlTags (incidentOpenedEmail rt f).html = htmlTags (incidentOpenedEmail rt g).html ∧
        htmlTags (incidentClosedEmail rt f).html = htmlTags (incidentClosedEmail rt g).html) ∧
      (∀ s : Units, ∀ c ∈ [lessThan, greaterThan, 0x22, 0x27], c ∉ escapeHtml (some s)) ∧
      ∀ s t : Units, escapeHtml (some s) = escapeHtml (some t) → s = t := by
  refine ⟨fun f g h => ⟨?_, ?_⟩, fun s c hc => not_mem_escapeHtml hc _, fun s t => ?_⟩
  · exact (sameTags_incidentOpenedEmail rt h.aiSummary).tags_eq
  · exact (sameTags_incidentClosedEmail rt f g).tags_eq
  · exact escapeHtml_injective

end WatchTower
