import MainContent.Proofs.Service.Admission
import MainContent.Proofs.Settings.Config
import MainContent.Proofs.Text.Utf8

/-!
# Callers whom every configuration refuses

A caller without a key, or with an empty one, is refused by the service under every configuration that
is accepted, and in production so is a caller with the key that development uses by default
(`serve_of_ofVariables`): the answer is the failure of the key, and no page is visited.

An accepted configuration has another key than these (`Config.authKey_ne_of_ofVariables`), and the
service tells keys apart byte for byte, so that the keys of no two texts are taken for each other
(`Query.hasKey_iff`).
-/

namespace MainContent.Service

open MainContent.Settings (Config Variables)

/-- A query presents the secret exactly when its first key has the secret's text. -/
theorem Query.hasKey_iff (q : Query) (key : AuthKey) : q.HasKey key ↔ q.key = some key.secret := by
  constructor
  · rintro ⟨k, hk, hbytes⟩
    rw [hk, String.toList_injective (Text.Utf8.encode_injective hbytes)]
  · intro hkey
    exact ⟨key.secret, hkey, rfl⟩

/-- An extraction request without the secret is answered with the failure of the key, and the
extractor does nothing. -/
theorem Server.serve_of_not_hasKey (key : AuthKey) (x : Url → Fetch.Visit) (now : String)
    (q : Request) (h : q.IsExtract) (hkey : ¬ q.query.HasKey key) :
    let e := Server.serve ⟨some key, some x⟩ now q
    e.response = extractResponse (.error .invalidAuthKey) ∧ e.visited = [] ∧ e.requests = [] := by
  intro e
  refine ⟨?_, Server.visited_of_not_admitted key x now q fun hadmitted => hkey hadmitted.hasKey⟩
  have hresponse := Server.serve_response_of_isExtract key x now q h
  rw [admittedTarget_of_not_hasKey key q.query hkey] at hresponse
  exact hresponse

/-- Under every configuration that is accepted, an extraction request that carries no key, or whose
first key is the empty text, is answered with the failure of the key, and no page is visited for it.
In production this holds of the key that development uses by default as well. -/
theorem serve_of_ofVariables (vs : Variables) (c : Config) (hc : Config.ofVariables vs = .ok c)
    (x : Url → Fetch.Visit) (now : String) (q : Request) (hmethod : q.method = "GET")
    (hroute : q.target.route = "/extract")
    (hkey : (Query.ofText q.target.query).key = none ∨
      (Query.ofText q.target.query).key = some "" ∨
      (c.environment = .production ∧
        (Query.ofText q.target.query).key = some "dev-auth-key-do-not-use-in-production")) :
    let e := Server.serve ⟨some ⟨c.authKey⟩, some x⟩ now q
    e.response = ⟨200, some "text/html; charset=utf-8", "ERROR: Invalid auth key.\n"⟩ ∧
      e.visited = [] ∧ e.requests = [] := by
  obtain ⟨hempty, hdevelopment⟩ := Config.authKey_ne_of_ofVariables hc
  refine Server.serve_of_not_hasKey ⟨c.authKey⟩ x now q ⟨hmethod, hroute⟩ ?_
  rw [Query.hasKey_iff]
  intro hsecret
  have hsecret : (Query.ofText q.target.query).key = some c.authKey := hsecret
  rcases hkey with hnone | hblank | ⟨hproduction, hdefault⟩
  · rw [hnone] at hsecret
    cases hsecret
  · rw [hblank, Option.some.injEq] at hsecret
    exact hempty hsecret.symm
  · rw [hdefault, Option.some.injEq] at hsecret
    exact hdevelopment hproduction hsecret.symm

/-- In production, the default key of development is refused, though it is presented before the right
one. -/
theorem serve_of_ofVariables_default_key :
    let vs : Variables := ⟨[("EXTRACTOR_AUTH_KEY", Text.Utf8.encode "k".toList),
      ("RUST_ENV", Text.Utf8.encode "PROD".toList)]⟩
    let c : Config := { environment := .production, host := "127.0.0.1", port := 8080,
                        authKey := "k", workers := .perProcessor, fetch := {} }
    let q : Request := { method := "GET",
                         target := ⟨"/extract",
                           "k%65y=dev-auth-key-do-not-use-in-production&key=k&url=http://[::1]/"⟩,
                         headers := [], peer := none }
    let e := Server.serve ⟨some ⟨c.authKey⟩, some fun _ => { result := .ok "<p>" }⟩ "now" q
    Config.ofVariables vs = .ok c ∧ q.target.route = "/extract" ∧
      e.response.body = "ERROR: Invalid auth key.\n" ∧ e.visited = [] := by
  intro vs c q e
  have hc : Config.ofVariables vs = .ok c := by decide +kernel
  have hroute : q.target.route = "/extract" := by decide +kernel
  have hkey : (Query.ofText q.target.query).key = some "dev-auth-key-do-not-use-in-production" := by
    decide +kernel
  obtain ⟨hresponse, hvisited, -⟩ :=
    serve_of_ofVariables vs c hc (fun _ => { result := .ok "<p>" }) "now" q rfl hroute
      (.inr (.inr ⟨rfl, hkey⟩))
  exact ⟨hc, hroute, congrArg Response.body hresponse, hvisited⟩

end MainContent.Service
