import NodeProbe.Client
import NodeProbe.Proofs.Rosetta.RoundTrip
import NodeProbe.Proofs.Settings.Lookup

set_option autoImplicit false

namespace NodeProbe.Client

open Json Rosetta Settings

-- Settings from variables are trimmed when they are loaded; those from a document keep what it says.
inductive Made (url : String) : Client → Prop
  | fresh (timeout : Duration) : Made url (ofUrl url timeout)
  | loaded {lookup : String → Option String} {settings : Settings} : lookup "ROSETTA_API_URL" = some url →
      ofLookup lookup = .ok settings → Made url (ofSettings settings)
  | stored {text : String} {settings : Settings} : Settings.shape.decode text = .ok settings → settings.apiUrl = url →
      Made url (ofSettings settings)

structure Seam (base path : String) : Prop where
  before : base.toList.getLast? ≠ some '/'
  after : ∃ rest, path = "/" ++ rest ∧ rest.toList.head? ≠ some '/'

theorem settings_keeps (settings : Settings) : Settings.shape.Keeps settings where
  lawful := ⟨by decide, ⟨trivial, network_lawful, trivial, trivial, trivial, trivial⟩, fun _ => rfl⟩
  canonical := ⟨trivial, ⟨trivial, trivial, trivial⟩, trivial, trivial, trivial, trivial⟩
  exact := ⟨trivial, ⟨trivial, trivial, trivial⟩, trivial, trivial, trivial, trivial⟩

theorem settings_stored (settings : Settings) : ∃ text, Settings.shape.decode text = .ok settings :=
  ⟨_, decode_compact Settings.shape settings (settings_keeps settings) (Nat.le_of_ble_eq_true rfl)⟩

theorem loaded_url {lookup : String → Option String} {url : String} {settings : Settings}
    (set : lookup "ROSETTA_API_URL" = some url) (valid : ofLookup lookup = .ok settings) :
    settings.apiUrl = trimSlashes url := by
  obtain ⟨_, _, _, _, same⟩ := (of_lookup_ok_iff lookup settings).mp valid
  rw [← same, filled_url set]

theorem made_base {url : String} {client : Client} (made : Made url client) : client.baseUrl = trimSlashes url := by
  cases made with
  | fresh timeout => rfl
  | loaded set valid => simp [ofSettings, ofUrl, loaded_url set valid, trim_again]
  | stored read same => simp [ofSettings, ofUrl, same]

theorem path_behind_slash (endpoint : Endpoint) :
    ∃ rest, endpoint.path = "/" ++ rest ∧ rest.toList.head? ≠ some '/' := by
  refine ⟨String.ofList (endpoint.path.toList.drop 1), ?_⟩
  cases endpoint <;> decide +kernel

/-- Slashes at the end of an address make no difference to any request. -/
theorem trailing_slashes_unseen (url : String) (count : Nat) :
    Bare url (trimSlashes url) ∧ trimSlashes (trimSlashes url) = trimSlashes url ∧
    (∀ lookup, lookup "ROSETTA_API_URL" = some (url ++ slashes count) → Readable lookup "PROBE_TIMEOUT_SECS" →
      Readable lookup "PROBE_REQUESTS" → ∃ settings, ofLookup lookup = .ok settings ∧
        settings.apiUrl = trimSlashes url ∧ Made (url ++ slashes count) (ofSettings settings)) ∧
    (∀ settings, ∃ text, Settings.shape.decode text = .ok settings) ∧
    ∀ client, Made (url ++ slashes count) client → client.baseUrl = trimSlashes url ∧
      ∀ request, client.requestUrl request = trimSlashes url ++ request.endpoint.path ∧
        Seam (trimSlashes url) request.endpoint.path := by
  refine ⟨trim_bare url, trim_again url, ?_, settings_stored, ?_⟩
  · intro lookup set timeoutReadable countReadable
    obtain ⟨timeoutSecs, requestCount, valid⟩ := of_lookup_readable timeoutReadable countReadable
    refine ⟨_, valid, ?_, .loaded set valid⟩
    rw [loaded_url set valid, trim_slashes]
  · intro client made
    have base : client.baseUrl = trimSlashes url := (made_base made).trans (trim_slashes url count)
    refine ⟨base, ?_⟩
    intro request
    exact ⟨by rw [requestUrl, base], trim_last url, path_behind_slash request.endpoint⟩

-- Slashes within the address stay.
theorem doubled_slashes_unseen :
    Made "http://h//x///" (ofUrl "http://h//x///" .zero) ∧
    ∀ request, request.endpoint = .mempool →
      (ofUrl "http://h//x///" .zero).requestUrl request = "http://h//x/mempool" := by
  have made : Made ("http://h//x/" ++ slashes 2) (ofUrl "http://h//x///" .zero) := .fresh .zero
  refine ⟨made, ?_⟩
  intro request endpoint
  have joined := ((trailing_slashes_unseen "http://h//x/" 2).2.2.2.2 _ made).2 request
  rw [joined.1, endpoint]
  decide +kernel

end NodeProbe.Client
