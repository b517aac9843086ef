import Fleet.Azure.AccessSignature
import Fleet.Proofs.Azure.Account
import Fleet.Proofs.Text.Split
import Fleet.Proofs.Time.Stamp

/-!
# `Fleet.Proofs.Azure.AccessSignature`: what a signature covers

The fields of a grant are signed as lines of one text. The name of the account stands inside one of
them and may itself hold line breaks, but it is the same for all grants of an account, so it is
taken away first. What is left are lines, and lines are told apart: grants by one account that are
signed alike have the same terms (`Grant.sameTerms_of_signed`). The pairs that carry a grant hold
just the fields that were signed (`Grant.carries_of_pairs`).
-/

set_option autoImplicit false

namespace Fleet.Azure

open Fleet.Hash Fleet.Text Fleet.Time Fleet.Url

/-! ### Times -/

variable {t : Instant} {s : String}

/-- A time is written for a signature exactly if its year has four digits in UTC, and then to the
second. -/
theorem writeTime_eq_ok_iff : writeTime t = .ok s ↔ t.HasPlainYear ∧ s = t.wholeSecondText := by
  rw [writeTime, Instant.HasPlainYear]
  split
  · next h =>
    rw [Bool.and_eq_true, decide_eq_true_eq, decide_eq_true_eq] at h
    exact ⟨fun heq => ⟨h, (Except.ok.inj heq).symm⟩, fun ⟨_, heq⟩ => by rw [heq]⟩
  · next h =>
    rw [Bool.and_eq_true, decide_eq_true_eq, decide_eq_true_eq] at h
    exact ⟨nofun, fun ⟨hyear, _⟩ => absurd hyear h⟩

/-- What is made of the two ends of a window is made if both years have four digits. -/
theorem window_eq_ok_iff {α : Type} {f : String → String → α} {t t' : Instant} {x : α} :
    (do pure (f (← writeTime t) (← writeTime t')) : Except CredentialsError α) = .ok x ↔
      t.HasPlainYear ∧ t'.HasPlainYear ∧ x = f t.wholeSecondText t'.wholeSecondText := by
  cases hstart : writeTime t with
  | error e =>
    refine ⟨nofun, fun ⟨hyear, _⟩ => ?_⟩
    cases (writeTime_eq_ok_iff.2 ⟨hyear, rfl⟩).symm.trans hstart
  | ok start =>
    cases hexpiry : writeTime t' with
    | error e =>
      refine ⟨nofun, fun ⟨_, hyear, _⟩ => ?_⟩
      cases (writeTime_eq_ok_iff.2 ⟨hyear, rfl⟩).symm.trans hexpiry
    | ok expiry =>
      obtain ⟨hyear, rfl⟩ := writeTime_eq_ok_iff.1 hstart
      obtain ⟨hyear', rfl⟩ := writeTime_eq_ok_iff.1 hexpiry
      exact ⟨fun h => ⟨hyear, hyear', (Except.ok.inj h).symm⟩, fun ⟨_, _, h⟩ => by rw [h]; rfl⟩

namespace Resource

/-- The container that a resource is or is in. -/
def holder : Resource → String
  | .blob holder _ => holder
  | .container name => name

/-- What follows the account in the name of a resource. -/
def within : Resource → String
  | .blob holder name => holder ++ "/" ++ name
  | .container name => name

/-- Whether a resource is named on one line, with a container of one part. -/
structure IsPlain (r : Resource) : Prop where
  holder : '/' ∉ r.holder.toList
  line : '\n' ∉ r.within.toList

variable {r r' : Resource}

/-- The signed name of a resource is that of the account with the name within the account behind
it. -/
theorem canonical_eq (r : Resource) (account : String) :
    r.canonical account = "/blob/" ++ account ++ "/" ++ r.within := by
  cases r with
  | blob holder name => simp only [canonical, within, String.append_assoc]
  | container name => rfl

/-- A resource is told by its kind and its name within the account, if containers have names of one
part. -/
theorem eq_of_within (h : '/' ∉ r.holder.toList) (h' : '/' ∉ r'.holder.toList)
    (hkind : r.kind = r'.kind) (hwithin : r.within = r'.within) : r = r' := by
  cases r with
  | container name =>
    cases r' with
    | container name' => exact congrArg container hwithin
    | blob holder' name' => exact absurd (show "c" = "b" from hkind) (by decide)
  | blob holder name =>
    cases r' with
    | container name' => exact absurd (show "b" = "c" from hkind) (by decide)
    | blob holder' name' =>
      have hslash : "/".toList = ['/'] := rfl
      have hchars := congrArg String.toList hwithin
      simp only [within, String.toList_append, hslash, List.append_assoc,
        List.singleton_append] at hchars
      obtain ⟨hholder, hname⟩ := append_cons_inj h h' hchars
      have hholder : holder = holder' := String.toList_inj.1 hholder
      rw [hholder, String.toList_inj.1 hname]

end Resource

namespace Grant

variable {g g' : Grant} {account start expiry text : String}

/-- Whether what a grant names can stand on lines of their own. -/
structure IsPlain (g : Grant) : Prop where
  resource : g.resource.IsPlain
  disposition : '\n' ∉ (g.disposition.getD "").toList

/-- The text that is signed for a grant by an account. -/
def signedText (g : Grant) (account : Account) : Except CredentialsError String := do
  pure (g.textToSign account.name (← writeTime g.start) (← writeTime g.expiry))

/-- Whether two grants allow the same, on the same resource, in the same window of whole seconds and
with the same disposition, of which none counts as the empty one. -/
structure SameTerms (g g' : Grant) : Prop where
  permission : g.permission = g'.permission
  resource : g.resource = g'.resource
  start : g.start.unixSeconds = g'.start.unixSeconds
  expiry : g.expiry.unixSeconds = g'.expiry.unixSeconds
  disposition : g.disposition.getD "" = g'.disposition.getD ""

/-- A text can be signed exactly if both ends of the window can be written, and then it is the text
with their stamps. -/
theorem signedText_eq_ok_iff {account : Account} : g.signedText account = .ok text ↔
    g.start.HasPlainYear ∧ g.expiry.HasPlainYear ∧
      text = g.textToSign account.name g.start.wholeSecondText g.expiry.wholeSecondText :=
  window_eq_ok_iff

/-- The token of a permission stands on one line. -/
theorem lineBreak_not_mem_token (p : Permission) : '\n' ∉ p.token.toList := by
  cases p <;> decide

/-- No two permissions have the same token. -/
theorem token_inj {p p' : Permission} (h : p.token = p'.token) : p = p' := by
  cases p <;> cases p' <;> first | rfl | exact absurd h (by decide)

/-- The lines behind the account in what is signed. -/
def linesBehind (g : Grant) : List String :=
  [g.resource.within, "", "", "", serviceVersion, g.resource.kind, "", "",
    g.disposition.getD "", "", "", ""]

/-- The text that is signed, up to the account and behind it. -/
theorem toList_textToSign (g : Grant) (account start expiry : String) :
    (g.textToSign account start expiry).toList = ['\n'].intercalate
      [g.permission.token.toList, start.toList, expiry.toList,
        "/blob/".toList ++ (account.toList ++ ('/' ::
          ['\n'].intercalate (g.linesBehind.map String.toList)))] := by
  simp [textToSign, signedFields, Resource.canonical_eq, linesBehind]

/-- What a plain grant signs behind the account has no line break within a line, so the lines can be
told apart. -/
theorem lineBreak_not_mem_linesBehind (h : g.IsPlain) :
    ∀ line ∈ g.linesBehind.map String.toList, '\n' ∉ line := by
  have hkind : '\n' ∉ g.resource.kind.toList := by
    cases g.resource <;> simp [Resource.kind]
  have hversion : '\n' ∉ serviceVersion.toList := by decide
  simp [linesBehind, h.resource.line, h.disposition, hkind, hversion]

/-- Grants by one account that are signed alike have the same terms. -/
theorem sameTerms_of_signed {account : Account} (h : g.IsPlain) (h' : g'.IsPlain)
    (hsigned : g.signedText account = .ok text) (hsigned' : g'.signedText account = .ok text) :
    g.SameTerms g' := by
  obtain ⟨hstartYear, hexpiryYear, rfl⟩ := signedText_eq_ok_iff.1 hsigned
  obtain ⟨hstartYear', hexpiryYear', htext⟩ := signedText_eq_ok_iff.1 hsigned'
  have hchars := congrArg String.toList htext
  rw [toList_textToSign, toList_textToSign] at hchars
  -- The lines in front of the account.
  obtain ⟨hpermission, hchars⟩ := intercalate_cons_inj (List.cons_ne_nil _ _) (List.cons_ne_nil _ _)
    (lineBreak_not_mem_token _) (lineBreak_not_mem_token _) hchars
  obtain ⟨hstart, hchars⟩ := intercalate_cons_inj (List.cons_ne_nil _ _) (List.cons_ne_nil _ _)
    (Instant.lineBreak_not_mem_wholeSecondText _) (Instant.lineBreak_not_mem_wholeSecondText _)
    hchars
  obtain ⟨hexpiry, hchars⟩ := intercalate_cons_inj (List.cons_ne_nil _ _) (List.cons_ne_nil _ _)
    (Instant.lineBreak_not_mem_wholeSecondText _) (Instant.lineBreak_not_mem_wholeSecondText _)
    hchars
  -- The account, and the lines behind it.
  rw [List.intercalate_singleton, List.intercalate_singleton] at hchars
  have hbehind := (List.cons.inj (List.append_cancel_left (List.append_cancel_left hchars))).2
  have hlines := intercalate_inj (by simp [linesBehind]) (by simp [linesBehind])
    (lineBreak_not_mem_linesBehind h) (lineBreak_not_mem_linesBehind h') hbehind
  have hlines : g.linesBehind = g'.linesBehind :=
    (List.map_inj_right fun _ _ => String.toList_inj.1).1 hlines
  simp only [linesBehind, List.cons.injEq] at hlines
  obtain ⟨hwithin, -, -, -, -, hkind, -, -, hdisposition, -⟩ := hlines
  exact {
    permission := token_inj (String.toList_inj.1 hpermission)
    resource := Resource.eq_of_within h.resource.holder h'.resource.holder hkind hwithin
    start := Instant.unixSeconds_eq_of_wholeSecondText hstartYear hstartYear'
      (String.toList_inj.1 hstart)
    expiry := Instant.unixSeconds_eq_of_wholeSecondText hexpiryYear hexpiryYear'
      (String.toList_inj.1 hexpiry)
    disposition := hdisposition }

/-! ### Pairs -/

/-- The pairs that carry a grant, for a window that is written. -/
def pairsIn (g : Grant) (account : Account) (start expiry : String) : List Pair :=
  [("sv", serviceVersion), ("st", start), ("se", expiry), ("sr", g.resource.kind),
      ("sp", g.permission.token)]
    ++ (match g.disposition with
      | some d => [("rscd", d)]
      | none => [])
    ++ [("sig", g.signature account start expiry)]

/-- The pairs of a grant are made exactly if both ends of the window can be written, and then they
carry their stamps. -/
theorem pairs_eq_ok_iff {account : Account} {pairs : List Pair} : g.pairs account = .ok pairs ↔
    g.start.HasPlainYear ∧ g.expiry.HasPlainYear ∧
      pairs = g.pairsIn account g.start.wholeSecondText g.expiry.wholeSecondText :=
  window_eq_ok_iff

section Lookup

variable (g : Grant) (account : Account) (start expiry : String)

/-- No name stands twice among the pairs, so a lookup finds the only one. -/
theorem nodup_pairsIn : ((g.pairsIn account start expiry).map (·.1)).Nodup := by
  rw [pairsIn]
  cases g.disposition <;> simp

/-- The start of the window is carried as it was signed. -/
theorem lookup_start : (g.pairsIn account start expiry).lookup "st" = some start := rfl

/-- The end of the window is carried as it was signed. -/
theorem lookup_expiry : (g.pairsIn account start expiry).lookup "se" = some expiry := rfl

/-- A disposition is carried as it was signed, and without one there is no such pair. -/
theorem lookup_disposition : (g.pairsIn account start expiry).lookup "rscd" = g.disposition := by
  rw [pairsIn]
  cases g.disposition <;> rfl

/-- The signature that is carried is that of the signed text. -/
theorem lookup_signature :
    (g.pairsIn account start expiry).lookup "sig" = some (g.signature account start expiry) := by
  rw [pairsIn]
  cases g.disposition <;> rfl

end Lookup

/-- Whether pairs hold what was signed as lines: each name once, each with the value of its line. -/
structure Carries (g : Grant) (account : Account) (pairs : List Pair) (lines : List String) :
    Prop where
  signed : g.signedText account = .ok ("\n".intercalate lines)
  fifteen : lines.length = 15
  resource : lines[3]? = some (g.resource.canonical account.name)
  once : (pairs.map (·.1)).Nodup
  permission : pairs.lookup "sp" = lines[0]?
  start : pairs.lookup "st" = lines[1]?
  expiry : pairs.lookup "se" = lines[2]?
  version : pairs.lookup "sv" = lines[7]?
  kind : pairs.lookup "sr" = lines[8]?
  /-- A disposition that is not there is signed as the empty one. -/
  disposition : pairs.lookup "rscd" = g.disposition ∧ lines[11]? = some (g.disposition.getD "")
  signature : pairs.lookup "sig"
    = some (Base64.encode (mac account.key (utf8Text ("\n".intercalate lines))))

/-- The pairs of a grant carry just the lines that were signed, so nothing in the link is unsigned
and nothing signed is left out. -/
theorem carries_of_pairs {account : Account} {pairs : List Pair} (h : g.pairs account = .ok pairs) :
    ∃ lines, g.Carries account pairs lines := by
  obtain ⟨hstart, hexpiry, rfl⟩ := pairs_eq_ok_iff.1 h
  refine ⟨g.signedFields account.name g.start.wholeSecondText g.expiry.wholeSecondText, ?_⟩
  exact {
    signed := signedText_eq_ok_iff.2 ⟨hstart, hexpiry, rfl⟩
    fifteen := rfl
    resource := rfl
    once := nodup_pairsIn ..
    permission := rfl
    start := lookup_start ..
    expiry := lookup_expiry ..
    version := rfl
    kind := rfl
    disposition := ⟨lookup_disposition .., rfl⟩
    signature := lookup_signature .. }

/-- What an account signs settles the terms of the grant, and the pairs of a grant carry the values
that were signed. -/
theorem signature_covers (account : Account) :
    (∀ g g' text, IsPlain g → IsPlain g' → g.signedText account = .ok text →
      g'.signedText account = .ok text → g.SameTerms g') ∧
    ∀ g pairs, Grant.pairs g account = .ok pairs → ∃ lines, g.Carries account pairs lines :=
  ⟨fun _ _ _ h h' hsigned hsigned' => sameTerms_of_signed h h' hsigned hsigned',
    fun _ _ h => carries_of_pairs h⟩

/-- A grant on a blob, made at half a second past noon in UTC by a clock one hour to the east. -/
def sampleGrant : Grant where
  permission := .read
  resource := .blob "artifacts" "dir/x"
  start := ⟨1772366400500000000, 3600⟩
  expiry := ⟨1772370000500000000, 3600⟩

/-- The same grant made at noon in UTC, with the empty disposition, is signed alike. -/
theorem signature_covers_sample :
    let g := sampleGrant
    let g' : Grant :=
      { g with start := .ofUnix 1772366400, expiry := .ofUnix 1772370000, disposition := some "" }
    g.SameTerms g' ∧ g ≠ g' ∧
      ∃ pairs lines, g.pairs Account.sample = .ok pairs ∧ g.Carries Account.sample pairs lines := by
  intro g g'
  have hplain : g.IsPlain := ⟨⟨by decide, by decide⟩, by decide⟩
  have hplain' : g'.IsPlain := ⟨⟨by decide, by decide⟩, by decide⟩
  let text := "r\n2026-03-01T12:00:00Z\n2026-03-01T13:00:00Z\n/blob/acct/artifacts/dir/x\n\n\n\n"
    ++ "2020-10-02\nb\n\n\n\n\n\n"
  have hsigned : g.signedText Account.sample = .ok text := by decide +kernel
  have hsigned' : g'.signedText Account.sample = .ok text := by decide +kernel
  obtain ⟨hstart, hexpiry, -⟩ := signedText_eq_ok_iff.1 hsigned
  have hpairs : g.pairs Account.sample = .ok _ := pairs_eq_ok_iff.2 ⟨hstart, hexpiry, rfl⟩
  obtain ⟨hterms, hcarries⟩ := signature_covers Account.sample
  obtain ⟨lines, hlines⟩ := hcarries g _ hpairs
  exact ⟨hterms g g' text hplain hplain' hsigned hsigned', by decide, _, lines, hpairs, hlines⟩

end Grant

end Fleet.Azure
