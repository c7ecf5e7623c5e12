import Larder.Proofs.Url.Server
import Larder.Settings.Validation

/-!
Credentials in the URL of a server.

The URL that is made of the single settings can be taken apart again: host and port are those of the
settings, and the credentials stand between their marks with everything encoded but the percent
sign.  So credentials are read back from it unless they hold what looks like an escape.  Such
credentials turn into others on the way, and the settings are accepted all the same
(`escape_in_password_is_lost`).
-/

namespace Larder.Settings

open Url (percentEncode percentDecode inUserinfo pieces? HasEscape isHostChar pathOf isDropped)

theorem given_of_ne_empty {s : String} (h : s ≠ "") : given (some s) = some s := by
  have hempty : s.isEmpty = false :=
    Bool.eq_false_iff.2 fun hempty => h (String.isEmpty_iff.1 hempty)
  rw [given, Option.filter_some, hempty]
  rfl

theorem isEmpty_toList {s : String} (h : s ≠ "") : s.toList.isEmpty = false := by
  rw [List.isEmpty_eq_false_iff, ne_eq, String.toList_eq_nil_iff]
  exact h

theorem ne_empty_of_isPresent {s : String} (h : isPresent (some s) = true) : s ≠ "" := by
  rintro rfl
  cases h

/-! ## The URL -/

/-- What follows the port: nothing, or the path of a database. -/
def databasePath (database : Option String) : List Char :=
  match given database with
  | none => []
  | some d => pathOf (("/" ++ d).toList.filter fun c => !isDropped c)

theorem head_databasePath (database : Option String) :
    ∀ c ∈ (databasePath database).head?, c = '/' := by
  intro c hc
  unfold databasePath at hc
  split at hc
  · cases hc
  · rw [pathOf] at hc
    generalize (Url.resolveDots [] _).reverse = segments at hc
    cases segments with
    | nil => cases hc
    | cons segment segments => exact (Option.some.inj hc).symm

section Server

variable {scheme host user password : String} {n : Nat} (hhost : host ≠ "")
  (hplain : ∀ c ∈ host.toList, isHostChar c = true) (huser : user ≠ "") (hpassword : password ≠ "")
include hhost hplain huser hpassword

theorem serverUrl_eq (hn : n < 1 <<< 16) (database : Option String) :
    serverUrl scheme (some host) (some n) (some user) (some password) database =
      .ok ⟨scheme, percentEncode inUserinfo user.toList, percentEncode inUserinfo password.toList,
        host.toList, some n, databasePath database, none, none⟩ := by
  simp only [serverUrl, given_of_ne_empty hhost, given_of_ne_empty huser,
    given_of_ne_empty hpassword, bind, Except.bind,
    Url.ofAuthority_server hhost hplain hn, Url.withUsername?, Url.withPassword?,
    isEmpty_toList hhost, Bool.false_eq_true, if_false, databasePath]
  cases given database <;> rfl

omit hhost in
/-- The URL is written with its parts in their places, so it can be taken apart. -/
theorem pieces?_serverUrl (hscheme : ':' ∉ scheme.toList) (database : Option String) :
    pieces? (Url.mk scheme (percentEncode inUserinfo user.toList)
      (percentEncode inUserinfo password.toList) host.toList
        (some n) (databasePath database) none none).text.toList =
      some ⟨scheme.toList, percentEncode inUserinfo user.toList,
        percentEncode inUserinfo password.toList, host.toList,
        Nat.toDigits 10 n, databasePath database⟩ := by
  have hname : (percentEncode inUserinfo user.toList).isEmpty = false := by
    rw [Url.isEmpty_percentEncode, isEmpty_toList huser]
  have hpass : (percentEncode inUserinfo password.toList).isEmpty = false := by
    rw [Url.isEmpty_percentEncode, isEmpty_toList hpassword]
  have hhostMark : ∀ c, isHostChar c = false → c ∉ host.toList := by
    intro c hc hmem
    rw [hplain c hmem] at hc
    cases hc
  have hport : '/' ∉ Nat.toDigits 10 n := by
    intro hmem
    exact absurd (Url.isDigit_of_toDigits hmem) (by decide)
  rw [← Url.pieces?_join hscheme
    ⟨Url.not_mem_userinfo (by decide) _, Url.not_mem_userinfo (by decide) _,
      Url.not_mem_userinfo (by decide) _⟩
    ⟨Url.not_mem_userinfo (by decide) _, Url.not_mem_userinfo (by decide) _⟩
    ⟨hhostMark ':' (by decide), hhostMark '/' (by decide)⟩ hport (head_databasePath database)]
  rw [Url.text, String.toList_ofList]
  congr 1
  simp only [Url.chars, Url.userinfoChars, hname, hpass]
  simp

end Server

/-! ## Reading the credentials back -/

/-- An answer is a URL with these parts, and each of the credentials is read back from its part if
it has no escape, and only then. -/
def LeadsTo (answer : Answer String) (scheme host : String) (port : Nat) (path : List Char)
    (user password : String) : Prop :=
  ∃ url username pass, answer = .ok url ∧
    pieces? url.toList
      = some ⟨scheme.toList, username, pass, host.toList, Nat.toDigits 10 port, path⟩ ∧
    (percentDecode username = Utf8.encode user ↔ ¬ HasEscape user.toList) ∧
    (percentDecode pass = Utf8.encode password ↔ ¬ HasEscape password.toList)

theorem percentDecode_userinfo_iff (s : String) :
    percentDecode (percentEncode inUserinfo s.toList) = Utf8.encode s ↔ ¬ HasEscape s.toList := by
  rw [← Url.percentDecode_percentEncode_iff (fun c => Url.inUserinfo_digit) (by decide),
    String.ofList_toList]

/-- The cache and the database are reached under their host and port, and with the credentials of
the settings as long as these hold no percent sign with two digits behind it. -/
theorem credentials_read_back_iff {host user password : String} {n : Nat} (hhost : host ≠ "")
    (hplain : ∀ c ∈ host.toList, isHostChar c = true) (hn : n < 1 <<< 16)
    (huser : isPresent (some user) = true) (hpassword : isPresent (some password) = true) :
    (∀ s : CacheSettings, given s.dsn = none → s.host = some host → s.port = some n →
      s.user = some user →
      s.password = some password → LeadsTo s.connectionUrl "redis" host n [] user password) ∧
    ∀ s : StoreSettings, given s.dsn = none → s.host = some host → s.port = some n →
    s.user = some user →
      s.password = some password →
        LeadsTo s.connectionUrl "mysql" host n (databasePath s.database) user password := by
  have hu := ne_empty_of_isPresent huser
  have hp := ne_empty_of_isPresent hpassword
  constructor
  · intro s hdsn hs hport hname hpass
    refine ⟨_, _, _, ?_, pieces?_serverUrl hplain hu hp (by decide) none,
      percentDecode_userinfo_iff user, percentDecode_userinfo_iff password⟩
    rw [CacheSettings.connectionUrl, hdsn, hs, hport, hname, hpass,
      serverUrl_eq hhost hplain hu hp hn]
  · intro s hdsn hs hport hname hpass
    refine ⟨_, _, _, ?_, pieces?_serverUrl hplain hu hp (by decide) s.database,
      percentDecode_userinfo_iff user, percentDecode_userinfo_iff password⟩
    rw [StoreSettings.connectionUrl, hdsn, hs, hport, hname, hpass,
      serverUrl_eq hhost hplain hu hp hn]

theorem credentials_read_back_at_internal_hosts :
    LeadsTo (CacheSettings.connectionUrl
        { host := some "cache.internal", port := some 6379, user := some "default",
          password := some "p@ss:w/rd 100%" })
      "redis" "cache.internal" 6379 [] "default" "p@ss:w/rd 100%" ∧
    LeadsTo (StoreSettings.connectionUrl
        { host := some "10.0.0.5", port := some 3306, user := some "app user",
          password := some "pä€ss", database := some "orders" })
      "mysql" "10.0.0.5" 3306 (databasePath (some "orders")) "app user" "pä€ss" :=
  ⟨(credentials_read_back_iff (by decide) (List.all_eq_true.1 (by decide)) (by decide) (by decide)
    (by decide)).1 _
      rfl rfl rfl rfl rfl,
    (credentials_read_back_iff (by decide) (List.all_eq_true.1 (by decide)) (by decide) (by decide)
      (by decide)).2 _
      rfl rfl rfl rfl rfl⟩

/-- The settings of a cache whose password is a percent sign and two digits. -/
def escapedPassword : Settings where
  cache :=
    { kind := .redis, host := some "h", port := some 6379, user := some "u", password := some "%41",
      nameSpace := some "n" }
  store := { dsn := some "mysql://d:1" }

/-- These settings are accepted, and the password that stands in the URL is read as another one. -/
theorem escape_in_password_is_lost :
    escapedPassword.validate = .ok () ∧
    escapedPassword.cache.connectionUrl = .ok "redis://u:%41@h:6379" ∧
      pieces? "redis://u:%41@h:6379".toList =
        some ⟨"redis".toList, "u".toList, "%41".toList, "h".toList, "6379".toList, []⟩ ∧
      percentDecode "%41".toList = Utf8.encode "A" ∧ Utf8.encode "A" ≠ Utf8.encode "%41" := by
  refine ⟨?_, ?_, ?_, ?_, ?_⟩
  all_goals decide +kernel

end Larder.Settings
