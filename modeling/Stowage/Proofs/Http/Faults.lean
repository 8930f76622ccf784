import Stowage.Proofs.Flow.Laws
import Stowage.Http.Client

/-!
How requests fail before they are sent.

A request that cannot be made out has a URL that is none, or something about it has no text
(`Unmade`). Neither is a failure of a storage call, and nothing has been sent. More exactly, what has
no text is the platform's failure for a value (`Refused`).
-/

namespace Stowage

/-- A failure to make something out of arguments: a URL that is none, or a platform failure. -/
inductive Unmade : Failure → Prop
  | badUrl (words : String) : Unmade (.badUrl words)
  | fault (kind : Fault) (argument : Option Value) : Unmade (.fault kind argument)

theorem Unmade.isStorage {f : Failure} (h : Unmade f) : f.isStorage = false := by
  cases h <;> rfl

/-- A failure to make something out of arguments that are not acceptable: a URL that is none, or the
platform's failure for a value, with a text. -/
inductive Refused : Failure → Prop
  | badUrl (words : String) : Refused (.badUrl words)
  | value (kind : Fault) (argument : Option Value) : kind.isA .valueError = true →
    (Failure.fault kind argument).isOverlong = false → Refused (.fault kind argument)

theorem Refused.unmade {f : Failure} (h : Refused f) : Unmade f := by
  cases h with
  | badUrl words => exact .badUrl words
  | value kind argument => exact .fault kind argument

namespace Http

/-! ## URLs -/

theorem Host.normalize_error {host : List Char} {f : Failure} (h : Host.normalize host = .error f) :
    ∃ words, f = .badUrl words := by
  unfold Host.normalize at h
  dsimp only at h
  split at h
  · split at h
    · cases h
    · cases h
      exact ⟨_, rfl⟩
  · split at h
    · split at h
      · cases h
      · cases h
        exact ⟨_, rfl⟩
    · split at h
      · cases h
      · split at h
        · cases h
        · cases h
          exact ⟨_, rfl⟩

namespace Url

variable {url : Url} {f : Failure}

theorem port?_error {scheme : String} {port : List Char} (h : port? scheme port = .error f) :
    ∃ words, f = .badUrl words := by
  unfold port? at h
  split at h
  · cases h
  · split at h
    · cases h
      exact ⟨_, rfl⟩
    · cases h

theorem ofParts_error {scheme authority path : List Char} {query fragment : Option (List Char)}
    (h : ofParts scheme authority path query fragment = .error f) : ∃ words, f = .badUrl words := by
  unfold ofParts at h
  generalize cutHost authority = parts at h
  obtain ⟨user, host, port⟩ := parts
  rcases bind_eq_error.1 h with h | ⟨name, -, h⟩
  · exact Host.normalize_error h
  · rcases bind_eq_error.1 h with h | ⟨number, -, h⟩
    · exact port?_error h
    · dsimp only at h
      split at h
      · cases h
        exact ⟨_, rfl⟩
      · cases h

theorem parse_error {s : String} (h : parse s = .error f) : ∃ words, f = .badUrl words := by
  unfold parse at h
  dsimp only at h
  split at h
  · cases h
    exact ⟨_, rfl⟩
  · split at h
    · cases h
      exact ⟨_, rfl⟩
    · exact ofParts_error h

theorem rebuild_error {path : List Char} {query : Option (List Char)}
    (h : url.rebuild path query = .error f) : ∃ words, f = .badUrl words := by
  unfold rebuild at h
  dsimp only at h
  split at h
  · cases h
    exact ⟨_, rfl⟩
  · exact ofParts_error h

/-- A URL that cannot take a host is no URL. -/
theorem withHost_error {host : String} (h : url.withHost host = .error f) :
    ∃ words, f = .badUrl words := rebuild_error h

theorem resolve_error {s : String} (h : url.resolve s = .error f) : ∃ words, f = .badUrl words := by
  unfold resolve at h
  rcases bind_eq_error.1 h with h | ⟨place, -, h⟩
  · exact parse_error h
  · split at h
    · cases h
    · exact rebuild_error h

theorem asBase_error (h : url.asBase = .error f) : ∃ words, f = .badUrl words := by
  unfold asBase at h
  split at h
  · cases h
  · exact rebuild_error h

theorem withFragment_error {fragment : List Char} (h : url.withFragment fragment = .error f) :
    ∃ words, f = .badUrl words := by
  rcases bind_eq_error.1 h with h | ⟨other, -, h⟩
  · exact rebuild_error h
  · split at h
    · cases h
      exact ⟨_, rfl⟩
    · cases h

/-- A location that cannot be completed is no URL. -/
theorem onward_error {location : Url} (h : url.onward location = .error f) :
    ∃ words, f = .badUrl words := by
  rcases bind_eq_error.1 h with h | ⟨hosted, -, h⟩
  · unfold lendHost at h
    split at h
    · exact withHost_error h
    · cases h
  · rcases bind_eq_error.1 h with h | ⟨placed, -, h⟩
    · unfold lendPlace at h
      split at h
      · cases h
      · exact parse_error h
    · unfold lendFragment at h
      dsimp only at h
      split at h
      · exact withFragment_error h
      · cases h

/-- A text that is no base for other URLs is no URL, or none that ends in a slash. -/
theorem base_error {s : String} (h : (parse s).bind asBase = .error f) :
    ∃ words, f = .badUrl words := by
  rcases bind_eq_error.1 h with h | ⟨url, -, h⟩
  · exact parse_error h
  · exact asBase_error h

end Url

/-! ## Queries -/

namespace Query

variable {v : Value} {f : Failure}

theorem shown_error (h : shown v = .error f) : Refused f := by
  unfold shown at h
  split at h
  · cases h
    exact .value _ _ rfl rfl
  · cases h

theorem valueText_error (h : valueText v = .error f) : Refused f := by
  unfold valueText at h
  split at h
  · cases h
  · cases h
  · exact shown_error h

theorem ofGroups_error {groups : List (Value × List Value)} (h : ofGroups groups = .error f) :
    Refused f := by
  rcases bind_eq_error.1 h with h | ⟨pairs, -, h⟩
  · refine mapM_error (fun group e h => ?_) h
    rcases bind_eq_error.1 h with h | ⟨name, -, h⟩
    · exact shown_error h
    · rcases bind_eq_error.1 h with h | ⟨values, -, h⟩
      · exact mapM_error (fun _ _ => valueText_error) h
      · cases h
  · cases h

end Query

/-! ## Requests -/

namespace Client

variable {client : Client} {number : Nat} {ask : Ask} {f : Failure}

theorem headerText_error {s : String} (h : headerText s = .error f) : Refused f := by
  unfold headerText at h
  split at h
  · cases h
  · cases h
    exact .value _ _ rfl rfl

theorem givenHeaders_error (hheaders : ask.headers = .null) (h : givenHeaders ask = .error f) :
    Refused f := by
  unfold givenHeaders at h
  rw [hheaders] at h
  cases htrace : ask.trace with
  | none =>
    rw [htrace] at h
    cases h
  | some trace =>
    rw [htrace] at h
    rcases bind_eq_error.1 h with h | ⟨entries, hentries, h⟩
    · cases h
    cases hentries
    change [(Value.text traceHeader, Value.text trace)].mapM header = .error f at h
    rw [List.mapM_cons, List.mapM_nil] at h
    rcases bind_eq_error.1 h with h | ⟨_, -, h⟩
    · rcases bind_eq_error.1 h with h | ⟨name, -, h⟩
      · exact headerText_error h
      · rcases bind_eq_error.1 h with h | ⟨value, -, h⟩
        · exact headerText_error h
        · cases h
    · cases h

theorem withQuery_error {url : Url} {v : Value} (hv : v = .null ∨ ∃ entries, v = .mapping entries)
    (h : withQuery url v = .error f) : Refused f := by
  have hurl : ∀ {query}, url.withQuery query = .error f → Refused f := by
    intro query h
    obtain ⟨words, rfl⟩ := Url.rebuild_error h
    exact .badUrl words
  rcases hv with rfl | ⟨entries, rfl⟩
  · cases h
  · unfold withQuery at h
    dsimp only at h
    split at h
    · rcases bind_eq_error.1 h with h | ⟨query, -, h⟩
      · exact Query.ofGroups_error h
      · exact hurl h
    · exact hurl h

/-- A request that cannot be made out of a place, a query and a document fails for its URL or for
want of text. -/
theorem request_error (hheaders : ask.headers = .null)
    (hquery : ask.query = .null ∨ ∃ entries, ask.query = .mapping entries)
    (hbody : ∃ body, bodyOf ask.document = .ok body) (h : client.request number ask = .error f) :
    Refused f := by
  unfold request at h
  rcases bind_eq_error.1 h with h | ⟨place, -, h⟩
  · obtain ⟨words, rfl⟩ := Url.resolve_error h
    exact .badUrl words
  rcases bind_eq_error.1 h with h | ⟨given, -, h⟩
  · exact givenHeaders_error hheaders h
  rcases bind_eq_error.1 h with h | ⟨url, -, h⟩
  · exact withQuery_error hquery h
  rcases bind_eq_error.1 h with h | ⟨body, -, h⟩
  · obtain ⟨body, hok⟩ := hbody
    cases h.symm.trans hok
  · cases h

end Client

end Http

end Stowage
