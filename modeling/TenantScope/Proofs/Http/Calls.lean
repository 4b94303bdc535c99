/- What the URL of a call says, and which parts of the backend's URL are in it. -/
import TenantScope.Proofs.Http.Confinement

namespace TenantScope

namespace Url

variable {u v : Url} {front apiPath : Text} {params : List (Text × Text)}

theorem query_forCall_eq_none_iff :
    (u.forCall front apiPath params).query = none ↔ params = [] := by
  simp only [forCall, ite_eq_left_iff, reduceCtorEq, imp_false, not_not]

/-- URLs with segments are called alike if they have the same scheme and the same front. -/
theorem forCall_congr (hu : u.isOpaque = false) (hv : v.isOpaque = false)
    (hscheme : v.scheme = u.scheme) (hfront : v.front = u.front) (front apiPath : Text)
    (params : List (Text × Text)) :
    v.forCall front apiPath params = u.forCall front apiPath params := by
  simp only [forCall, withPath, hu, hv, Bool.false_eq_true, if_false, kind, hscheme, hfront]

/-- A plain front and the path of an operation are written as they are, one behind the other. -/
theorem path_forCall (hkind : u.kind = .web) (hslashes : u.isOpaque = false)
    (hfront : IsPlainFront front) {apiType : ApiType} (hapi : ApiPath apiType apiPath) :
    (u.forCall front apiPath params).path = front ++ apiPath := by
  obtain ⟨segments, hapiPath, hne, hplain⟩ := hapi.exists_slashed
  obtain ⟨segments', hsegments, hplain'⟩ := hfront.exists_slashed
  have hwritten : u.writtenFront front = front := by
    rw [hsegments]
    exact writtenFront_slashed hkind hslashes hplain'
  rw [hapiPath]
  exact (path_withPath_append hkind hslashes front hne hplain).trans (by rw [hwritten])

end Url

namespace Settings

/-- The URL of a call has the scheme and the authority of the backend's, the plain front and the
path of an operation behind it, no fragment, and a query that is decoded to exactly the parameters,
or none without parameters. Nothing else of the backend's URL has a part in it. -/
theorem forCall_exact {s : Settings} {backend : Url} (hbackend : s.backendUrl = .ok backend)
    {front : Text} (hfront : Url.IsPlainFront front) {path : Text} {route : Route}
    (hroute : Route.ofPath path = .ok route) (params : List (Text × Text)) :
    let url := backend.forCall front route.apiPath params
    url.parameters = params ∧ (url.query = none ↔ params = []) ∧
      url.path = front ++ route.apiPath ∧ url.scheme = backend.scheme ∧
      (∃ a, backend.front = .authority a ∧ url.front = .authority a) ∧ url.fragment = none ∧
      ∀ (s' : Settings) (other : Url), s'.backendUrl = .ok other →
        other.scheme = backend.scheme → other.front = backend.front →
          other.forCall front route.apiPath params = url := by
  obtain ⟨a, ha, -⟩ := authorityIn_of_backendUrl hbackend
  obtain ⟨hkind, hslashes⟩ := backendUrl_eq_ok hbackend
  obtain ⟨-, -, hapi⟩ := Route.ofPath_eq_ok hroute
  refine ⟨Url.parameters_forCall _ _ _ _, Url.query_forCall_eq_none_iff,
    Url.path_forCall hkind hslashes hfront hapi, rfl, ⟨a, ha, ha⟩, rfl, ?_⟩
  intro s' other hother hscheme hsame
  exact Url.forCall_congr hslashes (backendUrl_eq_ok hother).2 hscheme hsame _ _ _

/-- Parameters with separators and blanks, an empty pair that is there twice, and characters beyond
ASCII, for two backends that differ behind the authority. -/
theorem forCall_exact_repeated :
    let front := "/a%20/b".toList
    let apiPath := "/api/v1/series".toList
    let params := [("match[]".toList, "a\x7bb=\"c d+&%é\"\x7d".toList), ([], []), ([], []),
      ("€".toList, [])]
    let elsewhere := { oneMachine with backendAddress := "http://[::1]/c?d#e".toList }
    let other : Url :=
      { oneBackend with path := "/c".toList, query := some ['d'], fragment := some ['e'] }
    let url := oneBackend.forCall front apiPath params
    (oneMachine.backendUrl = .ok oneBackend ∧ elsewhere.backendUrl = .ok other ∧
        Url.IsPlainFront front ∧
        Route.ofPath "/t1/api/v1/series".toList = .ok ⟨"t1".toList, apiPath, .series⟩) ∧
      url.parameters = params ∧ url.path = "/a%20/b/api/v1/series".toList ∧
      url.print = ("http://[::1]/a%20/b/api/v1/series?match%5B%5D=" ++
        "a%7Bb%3D%22c+d%2B%26%25%C3%A9%22%7D&=&=&%E2%82%AC=").toList ∧
      other.forCall front apiPath params = url := by
  intro front apiPath params elsewhere other url
  have hbackend : oneMachine.backendUrl = .ok oneBackend := by decide +kernel
  have hother : elsewhere.backendUrl = .ok other := by decide +kernel
  have hfront : Url.IsPlainFront front := ⟨.inr rfl, by decide, by decide⟩
  have hroute : Route.ofPath "/t1/api/v1/series".toList =
      .ok ⟨"t1".toList, apiPath, .series⟩ := by decide +kernel
  obtain ⟨hparams, -, hpath, -, -, -, hsame⟩ := forCall_exact hbackend hfront hroute params
  exact ⟨⟨hbackend, hother, hfront, hroute⟩, hparams, hpath, by decide +kernel,
    hsame elsewhere other hother rfl rfl⟩

end Settings
end TenantScope
