/- What a request is answered with: the error of the first stage that fails, or what the backend
says to one call. -/
import TenantScope.Proofs.Http.Confinement
import TenantScope.Proofs.Http.Envelope

namespace TenantScope.Proxy

variable (p : Proxy) (send : Url → Except CallFailure BackendAnswer) {r : Request}

theorem handle_of_plan_eq_error {e : RequestError} (h : p.plan r = .error e) :
    p.handle send r = ⟨[], e.response⟩ := by
  unfold handle
  rw [h]

theorem calls_of_plan_eq_ok {url : Url} (h : p.plan r = .ok url) :
    (p.handle send r).calls = [url] := by
  unfold handle
  rw [h]
  dsimp only
  split <;> rfl

theorem response_of_failure {url : Url} {failure : CallFailure} (h : p.plan r = .ok url)
    (hsend : send url = .error failure) :
    (p.handle send r).response =
      (RequestError.unavailable (url.print ++ ": ".toList ++ failure)).response := by
  unfold handle
  rw [h]
  dsimp only
  rw [hsend]

theorem response_of_answer {url : Url} {answer : BackendAnswer} (h : p.plan r = .ok url)
    (hsend : send url = .ok answer) : (p.handle send r).response = answer.response := by
  unfold handle
  rw [h]
  dsimp only
  rw [hsend]

/-- A request that fails at some stage is answered with the error of the first such stage, which is
the caller's, and nothing is called; the answer tells the caller the message of this error. Any other
request leads to one call, of the operation in its path with its scoped parameters; if the call fails,
the answer tells the caller which one and why, and else it has the status of the backend's answer and
all its headers but the length of the body. -/
theorem handle_all_or_nothing (r : Request) :
    (∀ e, p.Refuses r e → p.handle send r = ⟨[], e.response⟩ ∧
      e.response.Tells 400 "bad_data".toList e.message) ∧
    (∀ apiPath params, p.Accepts r apiPath params →
      let url := p.backend.forCall p.pathHead apiPath params
      (p.handle send r).calls = [url] ∧
      (∀ failure, send url = .error failure →
        let reason := url.print ++ ": ".toList ++ failure
        (p.handle send r).response = (RequestError.unavailable reason).response ∧
        (p.handle send r).response.Tells 502 "unavailable".toList
          ("upstream error: ".toList ++ reason)) ∧
      ∀ answer, send url = .ok answer →
        (p.handle send r).response.status = answer.status ∧
        ∀ name, valuesOf name (p.handle send r).response.headers =
          if name = Headers.lengthName then [] else valuesOf name answer.headers) ∧
    ((∃ e, p.Refuses r e) ∨ ∃ apiPath params, p.Accepts r apiPath params) := by
  refine ⟨fun e he => ?_, fun apiPath params haccepts => ?_, p.refuses_or_accepts r⟩
  · have htells := e.response_tells
    rw [he.isRefusal.status, he.isRefusal.errorType] at htells
    exact ⟨p.handle_of_plan_eq_error send he.plan, htells⟩
  · have hplan := haccepts.plan
    refine ⟨p.calls_of_plan_eq_ok send hplan, fun failure hsend => ?_, fun answer hsend => ?_⟩
    · have hresponse := p.response_of_failure send hplan hsend
      exact ⟨hresponse, hresponse ▸ RequestError.response_tells _⟩
    · rw [p.response_of_answer send hplan hsend]
      exact ⟨rfl, fun name => answer.headers.valuesOf_withoutLength name⟩

/-- A selector that can be scoped, in front of a query that cannot. -/
def lateRequest : Request :=
  ⟨"GET".toList, ⟨"/t1/api/v1/query".toList, some "match[]=a&query=(".toList⟩, [], []⟩

/-- An answer of two octets with their length and type. -/
def oneAnswer : BackendAnswer :=
  ⟨200, [("content-length".toList, ['2']), ("content-type".toList, "application/json".toList)],
    [.chunk [0x7b, 0x7d]]⟩

/-- One request fails at its last parameter. The other one passes; its call fails, or is answered. -/
theorem handle_all_or_nothing_one :
    let p := Settings.oneProxy []
    let r := Settings.oneRequest
    let e := RequestError.unscoped
      (.badQuery ['('] "unexpected input at \"(\" (TakeWhile1)".toList)
    let params := [(Params.queryKey, "a\x7btenant=\"t1\"\x7d".toList)]
    let url := "http://[::1]/api/v1/query?query=a%7Btenant%3D%22t1%22%7D".toList
    (p.Refuses lateRequest e ∧
      p.handle (fun _ => .ok oneAnswer) lateRequest = ⟨[], e.response⟩ ∧
      e.response.Tells 400 "bad_data".toList
        "promql parse error in \"(\": unexpected input at \"(\" (TakeWhile1)".toList) ∧
    p.Accepts r "/api/v1/query".toList params ∧
      (p.handle (fun url => .error (unreachable url)) r).calls =
        [p.backend.forCall [] "/api/v1/query".toList params] ∧
      (p.handle (fun url => .error (unreachable url)) r).response.Tells 502 "unavailable".toList
        ("upstream error: ".toList ++ url ++ ": error sending request for url (".toList ++ url ++
          [')']) ∧
      (p.handle (fun _ => .ok oneAnswer) r).response.status = 200 ∧
      valuesOf Headers.typeName (p.handle (fun _ => .ok oneAnswer) r).response.headers =
        ["application/json".toList] ∧
      valuesOf Headers.lengthName (p.handle (fun _ => .ok oneAnswer) r).response.headers = [] := by
  intro p r e params url
  have hgathered : ∀ r : Request, r.method = "GET".toList →
      r.target.decodedPath? = some "/t1/api/v1/query".toList →
        p.Gathered r "/t1/api/v1/query".toList
          ⟨"t1".toList, "/api/v1/query".toList, .query⟩ Filter.oneTenant [] := by
    intro r hmethod hdecoded
    have hposts : ¬r.PostsForm := fun hposts =>
      absurd (hmethod.symm.trans hposts.method) (by decide)
    exact {
      method := by rw [hmethod]; exact List.mem_cons_self
      decoded := hdecoded
      classified := by decide +kernel
      filtered := by decide +kernel
      body := .nothing hposts }
  have hrefuses : p.Refuses lateRequest e :=
    .params (hgathered lateRequest rfl (by decide +kernel)) (by decide +kernel)
  have haccepts : p.Accepts r "/api/v1/query".toList params :=
    .intro (hgathered r rfl (by decide +kernel)) rfl (by decide +kernel)
  obtain ⟨hrefused, -, -⟩ := p.handle_all_or_nothing (fun _ => .ok oneAnswer) lateRequest
  obtain ⟨-, hlost, -⟩ := p.handle_all_or_nothing (fun url => .error (unreachable url)) r
  obtain ⟨-, hfound, -⟩ := p.handle_all_or_nothing (fun _ => .ok oneAnswer) r
  obtain ⟨hcalls, hfailed, -⟩ := hlost _ params haccepts
  obtain ⟨-, -, hanswered⟩ := hfound _ params haccepts
  obtain ⟨hstatus, hheaders⟩ := hanswered oneAnswer rfl
  have hmessage : e.message =
      "promql parse error in \"(\": unexpected input at \"(\" (TakeWhile1)".toList := by
    decide +kernel
  have hreason : "upstream error: ".toList ++
      ((p.backend.forCall p.pathHead "/api/v1/query".toList params).print ++ ": ".toList ++
        unreachable (p.backend.forCall p.pathHead "/api/v1/query".toList params)) =
      "upstream error: ".toList ++ url ++ ": error sending request for url (".toList ++ url ++
        [')'] := by decide +kernel
  have hrefusal := hrefused e hrefuses
  have htold := (hfailed (unreachable _) rfl).2
  rw [hmessage] at hrefusal
  rw [hreason] at htold
  exact ⟨⟨hrefuses, hrefusal⟩, haccepts, hcalls, htold, hstatus, hheaders _, hheaders _⟩

end TenantScope.Proxy
