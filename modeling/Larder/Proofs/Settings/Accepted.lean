import Larder.Proofs.Settings.Connection
import Larder.Proofs.Settings.Validation

/-!
What accepted settings are good for.

Settings are accepted without a look at the URL that the single fields make, and without asking that
there be room for a connection.  So an accepted section leads to a server if it has a URL of its own
or a host that can stand in one, and its pool may be empty (`accepted_can_fail_to_connect`).
-/

namespace Larder

namespace Url

theorem scheme_of_ofAuthority {scheme text : String} {u : Url}
    (h : ofAuthority scheme text = .ok u) :
    u.scheme = scheme := by
  simp only [ofAuthority, bind, Except.bind] at h
  split at h
  · cases h
  · split at h
    · cases h
    · split at h
      · cases h
      · split at h
        · split at h
          · cases h
          · rw [← Except.ok.inj h]
        · rw [← Except.ok.inj h]

end Url

namespace Settings

/-! ## Servers that the single fields name -/

namespace ServerFields

variable {f : ServerFields}

/-- Host and port are read as an authority that has a host. -/
def NamesServer (f : ServerFields) : Prop :=
  ∃ h n server, given f.host = some h ∧ f.port = some n ∧
    Url.ofAuthority f.scheme (h ++ ":" ++ toString n) = .ok server ∧ server.host ≠ []

/-- A plain host can stand in a URL. -/
theorem namesServer_of_plainHost (hhost : f.HasPlainHost) (hfilled : f.Filled) (hport : f.HasPort) :
    f.NamesServer := by
  obtain ⟨h, hh, hne, hplain⟩ := hhost
  obtain ⟨n, hn⟩ := Option.isSome_iff_exists.1 hfilled.port
  refine ⟨h, n, _, given_eq_some_iff.2 ⟨hh, hne⟩, hn,
    Url.ofAuthority_server hne hplain (hport n hn), ?_⟩
  exact fun hempty => hne (String.toList_eq_nil_iff.1 hempty)

/-- The fields make a URL of their scheme if they name a server, and none if they do not. -/
theorem url_cases (hfilled : f.Filled) :
    (f.NamesServer ∧ ∃ url, f.url = .ok url ∧ url.scheme = f.scheme) ∨
      (¬ f.NamesServer ∧ ∃ reason, f.url = .error reason) := by
  obtain ⟨h, -, hh⟩ := given_of_isPresent hfilled.host
  obtain ⟨n, hn⟩ := Option.isSome_iff_exists.1 hfilled.port
  obtain ⟨u, -, hu⟩ := given_of_isPresent hfilled.user
  obtain ⟨p, -, hp⟩ := given_of_isPresent hfilled.password
  have hnames : f.NamesServer ↔
      ∃ server, Url.ofAuthority f.scheme (h ++ ":" ++ toString n) = .ok server ∧
      server.host ≠ [] := by
    constructor
    · rintro ⟨h', n', server, hh', hn', hserver⟩
      rw [hh] at hh'
      rw [hn] at hn'
      obtain rfl := Option.some.inj hh'
      obtain rfl := Option.some.inj hn'
      exact ⟨server, hserver⟩
    · rintro ⟨server, hserver⟩
      exact ⟨h, n, server, hh, hn, hserver⟩
  rw [hnames]
  simp only [url, serverUrl, hh, hn, hu, hp, bind, Except.bind]
  cases hread : Url.ofAuthority f.scheme (h ++ ":" ++ toString n) with
  | error e =>
    refine Or.inr ⟨?_, _, rfl⟩
    rintro ⟨server, hserver, -⟩
    cases hserver
  | ok server =>
    have hscheme := Url.scheme_of_ofAuthority hread
    -- A URL without a host is read as well, but there is no place for a user in it.
    by_cases hhost : server.host = []
    · refine Or.inr ⟨?_, ?_⟩
      · rintro ⟨server', hserver, hne⟩
        rw [← Except.ok.inj hserver] at hne
        exact hne hhost
      · simp only [Url.withUsername?, if_pos (List.isEmpty_iff.2 hhost)]
        exact ⟨_, rfl⟩
    · refine Or.inl ⟨⟨server, rfl, hhost⟩, ?_⟩
      have hkept : ¬ server.host.isEmpty = true := fun hempty => hhost (List.isEmpty_iff.1 hempty)
      simp only [Url.withUsername?, Url.withPassword?, if_neg hkept]
      cases given f.database with
      | none => exact ⟨_, rfl, hscheme⟩
      | some d => exact ⟨_, rfl, hscheme⟩

end ServerFields

/-! ## Sections -/

/-- An answer is a URL that begins with one of the schemes. -/
def LeadsBy (schemes : List String) (answer : Answer String) : Prop :=
  ∃ url, answer = .ok url ∧ ∃ scheme ∈ schemes, scheme.toList <+: url.toList

/-- Where a section leads whose URL, if it has one, begins with one of the schemes. -/
structure Destination (schemes : List String) (part : String) (dsn : Option String)
    (f : ServerFields) (answer : Answer String) : Prop where
  leads_iff : LeadsBy schemes answer ↔ (given dsn).isSome = true ∨ f.NamesServer
  unreached : ¬ LeadsBy schemes answer →
    ∃ reason, answer = .error (.configurationMissing (part ++ reason))
  plain_host : f.HasPlainHost → f.HasPort → LeadsBy schemes answer

/-- A complete section leads to its URL, or else to the server that its single fields name. -/
theorem destination {schemes : List String} {dsn : Option String} {f : ServerFields} (part : String)
    (hcomplete : isPresent dsn = true ∨ f.Filled) (hforeign : hasForeignScheme dsn schemes = false)
    (hscheme : f.scheme ++ "://" ∈ schemes) :
    Destination schemes part dsn f (chosenUrl part dsn f.url) := by
  by_cases hgiven : (given dsn).isSome = true
  · obtain ⟨d, hd⟩ := Option.isSome_iff_exists.1 hgiven
    have hleads : LeadsBy schemes (chosenUrl part dsn f.url) :=
      ⟨d, chosenUrl_of_given hd, hasForeignScheme_eq_false_iff.1 hforeign d hd⟩
    exact ⟨iff_of_true hleads (Or.inl hgiven), fun hnot => absurd hleads hnot, fun _ _ => hleads⟩
  · have hfilled : f.Filled :=
      hcomplete.resolve_left fun hpresent => hgiven (isSome_given_iff.2 (Or.inl hpresent))
    rcases ServerFields.url_cases hfilled with ⟨hnames, url, hurl, hkept⟩ | ⟨hnot, reason, hreason⟩
    · have hleads : LeadsBy schemes (chosenUrl part dsn f.url) := by
        refine ⟨url.text, chosenUrl_of_not_given hgiven hurl, _, hscheme, ?_⟩
        rw [← hkept]
        exact url.scheme_prefix_text
      exact ⟨iff_of_true hleads (Or.inr hnames), fun hnot => absurd hleads hnot, fun _ _ => hleads⟩
    · have hrefused : chosenUrl part dsn f.url
          = .error (.configurationMissing (part ++ reason)) := by
        unfold chosenUrl
        rw [Option.not_isSome_iff_eq_none.1 hgiven, hreason]
      have hleads : ¬ LeadsBy schemes (chosenUrl part dsn f.url) := by
        rintro ⟨url, hurl, -⟩
        rw [hrefused] at hurl
        cases hurl
      refine ⟨iff_of_false hleads (not_or.2 ⟨hgiven, hnot⟩), fun _ => ⟨reason, hrefused⟩,
        fun hhost hport => ?_⟩
      exact absurd (ServerFields.namesServer_of_plainHost hhost hfilled hport) hnot

end Settings

theorem CacheSettings.dsn_or_filled {s : CacheSettings} (h : s.isComplete = true) :
    Settings.isPresent s.dsn = true ∨ s.serverFields.Filled := by
  rw [isComplete, Bool.or_eq_true] at h
  exact h.imp_right CacheSettings.filled

theorem StoreSettings.dsn_or_filled {s : StoreSettings} (h : s.isComplete = true) :
    Settings.isPresent s.dsn = true ∨ s.serverFields.Filled := by
  rw [isComplete, Bool.or_eq_true] at h
  exact h.imp_right StoreSettings.filled

theorem CacheSettings.isComplete_with_host {s : CacheSettings} (h : s.isComplete = true)
    {host : Option String} (hhost : Settings.isPresent host = true) :
    { s with host := host }.isComplete = true := by
  simp only [isComplete, hasDsn, hasDiscreteFields, Bool.or_eq_true, Bool.and_eq_true] at h ⊢
  refine h.imp_right ?_
  rintro ⟨⟨⟨⟨-, hport⟩, huser⟩, hpassword⟩, hspace⟩
  exact ⟨⟨⟨⟨hhost, hport⟩, huser⟩, hpassword⟩, hspace⟩

theorem StoreSettings.isComplete_with_host {s : StoreSettings} (h : s.isComplete = true)
    {host : Option String} (hhost : Settings.isPresent host = true) :
    { s with host := host }.isComplete = true := by
  simp only [isComplete, hasDsn, hasDiscreteFields, Bool.or_eq_true, Bool.and_eq_true] at h ⊢
  refine h.imp_right ?_
  rintro ⟨⟨⟨⟨-, hport⟩, huser⟩, hpassword⟩, hdatabase⟩
  exact ⟨⟨⟨⟨hhost, hport⟩, huser⟩, hpassword⟩, hdatabase⟩

namespace Settings

/-! ## Accepted settings -/

/-- What the acceptance of settings comes to: the bounds of their pools, and where their sections
lead.  The bounds of the store may be any in order up to the largest, zero among them, and the hosts
any texts that are there. -/
structure Acceptance (s : Settings) : Prop where
  pool_pos : 1 ≤ s.cache.poolSize
  pool_le : s.cache.poolSize ≤ 1000
  least_le_most : s.store.minConnections ≤ s.store.maxConnections
  most_le : s.store.maxConnections ≤ 1000
  accepted_with_bounds_iff : ∀ least most,
    { s with store := { s.store with minConnections := least, maxConnections := most } }.validate
      = .ok () ↔ least ≤ most ∧ most ≤ 1000
  accepted_with_cache_host : ∀ host, isPresent host = true →
    { s with cache := { s.cache with host := host } }.validate = .ok ()
  accepted_with_store_host : ∀ host, isPresent host = true →
    { s with store := { s.store with host := host } }.validate = .ok ()
  cache : s.cache.kind = .redis →
    Destination ["redis://", "rediss://"] "cache: " s.cache.dsn s.cache.serverFields
      s.cache.connectionUrl
  store : s.store.kind = .document →
    Destination ["mysql://"] "persistence: " s.store.dsn s.store.serverFields s.store.connectionUrl

theorem acceptance {s : Settings} (haccepted : s.validate = .ok ()) : Acceptance s := by
  obtain ⟨hcache, hstore, hevents, hobservability⟩ := (validate_eq_ok_iff_sections s).1 haccepted
  refine ⟨hcache.pool_pos, hcache.pool_le, hstore.least_le_most, hstore.most_le,
    fun least most => ?_, fun host hhost => ?_,
    fun host hhost => ?_, fun hkind => ?_, fun hkind => ?_⟩
  · rw [validate_eq_ok_iff_sections]
    constructor
    · rintro ⟨-, hbounds, -, -⟩
      exact ⟨hbounds.least_le_most, hbounds.most_le⟩
    · rintro ⟨hle, hmost⟩
      exact ⟨hcache, ⟨hstore.complete, hstore.scheme, hle, hmost, hstore.timeout_pos⟩, hevents,
        hobservability⟩
  · rw [validate_eq_ok_iff_sections]
    exact ⟨{ hcache with complete := CacheSettings.isComplete_with_host hcache.complete hhost },
      hstore, hevents, hobservability⟩
  · rw [validate_eq_ok_iff_sections]
    exact ⟨hcache, { hstore with
      complete := StoreSettings.isComplete_with_host hstore.complete hhost }, hevents,
      hobservability⟩
  · exact destination "cache: " (CacheSettings.dsn_or_filled hcache.complete) (hcache.scheme hkind)
      (show "redis" ++ "://" ∈ ["redis://", "rediss://"] by decide)
  · exact destination "persistence: " (StoreSettings.dsn_or_filled hstore.complete)
      (hstore.scheme hkind)
      (show "mysql" ++ "://" ∈ ["mysql://"] by decide)

/-- Settings with no room for a connection. -/
def noRoom : Settings where
  cache := { kind := .memory, dsn := some "redis://c:1" }
  store := { dsn := some "mysql://d:1", minConnections := 0, maxConnections := 0 }

/-- Settings whose cache has a blank inside its host. -/
def brokenHost : Settings where
  cache :=
    { kind := .redis, host := some "a b", port := some 6379, user := some "u", password := some "p",
      nameSpace := some "n" }
  store := { dsn := some "mysql://d:1" }

theorem acceptance_without_room_and_with_broken_host :
    (noRoom.validate = .ok () ∧ Acceptance noRoom) ∧ brokenHost.validate = .ok () ∧
    Acceptance brokenHost := by
  have hroom : noRoom.validate = .ok () := by decide +kernel
  have hhost : brokenHost.validate = .ok () := by decide +kernel
  exact ⟨⟨hroom, acceptance hroom⟩, hhost, acceptance hhost⟩

/-- Accepted settings may have no room for a connection, and a host that is in no URL. -/
theorem accepted_can_fail_to_connect :
    (¬ ∀ s : Settings, s.validate = .ok () → 1 ≤ s.store.maxConnections) ∧
      ¬ ∀ s : Settings, s.validate = .ok () → s.cache.kind = .redis →
      ∃ url, s.cache.connectionUrl = .ok url := by
  constructor
  · intro h
    exact absurd (h noRoom (by decide +kernel)) (by decide)
  · intro h
    obtain ⟨url, hurl⟩ := h brokenHost (by decide +kernel) rfl
    have hrefused : brokenHost.cache.connectionUrl =
        .error (.configurationMissing "cache: invalid host 'a b': invalid domain character") := by
      decide +kernel
    rw [hrefused] at hurl
    cases hurl

end Settings

end Larder
