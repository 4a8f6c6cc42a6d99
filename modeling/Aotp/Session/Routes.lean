import Aotp.Lib.Routes
import Aotp.Session.Boundary

/-!
# Allowed routes and normal paths

* `AllowedRoute.LiesUnder` — a path, percent-decoded and without its dot segments, lies under the
  prefix of a pattern.
* `AllowedRoute.StaysUnder` — what follows the prefix, walked on its own, does not climb above it, or
  goes back into the directories it climbed out of.
* `liesUnder_iff` — **a permitted path lies under the prefix exactly where it stays under it**: the
  matcher compares texts, so an encoded `..` climbs out.
-/

namespace Aotp.Session

open PyData

variable {lib : SessionLibrary} {route : AllowedRoute} {method path : String}

namespace AllowedRoute

variable (route : AllowedRoute)

/-- A path lies under the prefix of a pattern, both of them decoded and without dot segments. A prefix
without escapes and dot segments is its own normal form (`liesUnder_plain`). -/
def LiesUnder (path : String) : Prop :=
  normalPath (octets route.wildcardPrefix) <+: normalPath (octets path.toList)

/-- What a path has after the prefix. -/
def remainder (path : String) : List Char := path.toList.drop route.wildcardPrefix.length

/-- What follows the prefix does not climb above it, or goes back into what it climbed out of. -/
def StaysUnder (path : String) : Prop :=
  (climbOf (octets (route.remainder path))).Returns
    (directoryOf (percentDecode (octets route.wildcardPrefix)))

instance (path : String) : Decidable (route.LiesUnder path) :=
  inferInstanceAs (Decidable (_ <+: _))

instance (path : String) : Decidable (route.StaysUnder path) :=
  inferInstanceAs (Decidable (Climb.Returns _ _))

end AllowedRoute

/-- The prefix of a pattern ends with a slash. -/
theorem wildcardPrefix_eq (hwild : endsWithWildcard route.pathPattern.toList = true) :
    ∃ start, route.wildcardPrefix = start ++ ['/'] := by
  obtain ⟨start, hstart⟩ := of_decide_eq_true hwild
  refine ⟨start, ?_⟩
  have hpattern : route.pathPattern.toList = (start ++ ['/']) ++ ['*'] := by
    rw [← hstart, List.append_assoc]
    rfl
  unfold AllowedRoute.wildcardPrefix
  rw [hpattern, List.dropLast_concat]

/-- A path that a pattern permits is one that the validator accepts, and continues the prefix. -/
theorem matchesRequest_wildcard (hwild : endsWithWildcard route.pathPattern.toList = true)
    (hmatches : route.matchesRequest lib method path = .ok true) :
    validateRoutePath path = .ok () ∧
      path.toList = route.wildcardPrefix ++ route.remainder path := by
  unfold AllowedRoute.matchesRequest at hmatches
  by_cases hmethod : route.methods.contains (lib.upper method) = true
  · rw [if_pos hmethod] at hmatches
    simp only [if_pos hwild] at hmatches
    obtain ⟨_, hvalid, hmatches⟩ := bind_eq_ok.mp hmatches
    have hprefix : route.wildcardPrefix.isPrefixOf path.toList = true := Except.ok.inj hmatches
    refine ⟨hvalid, ?_⟩
    obtain ⟨rest, hrest⟩ := List.isPrefixOf_iff_prefix.mp hprefix
    unfold AllowedRoute.remainder
    rw [← hrest, List.drop_left]
  · rw [if_neg hmethod] at hmatches
    cases hmatches

/-- **A permitted path lies under the prefix exactly where it stays under it.** -/
theorem matched_liesUnder_iff (hwild : endsWithWildcard route.pathPattern.toList = true)
    (hmatches : route.matchesRequest lib method path = .ok true) :
    route.LiesUnder path ↔ route.StaysUnder path := by
  obtain ⟨start, hstart⟩ := wildcardPrefix_eq hwild
  have hprefix : octets route.wildcardPrefix = octets start ++ [slash] := by
    rw [hstart, octets_append, octets_slash]
  have hpath : octets path.toList =
      octets start ++ slash :: octets (route.remainder path) := by
    rw [(matchesRequest_wildcard hwild hmatches).2, octets_append, hprefix, List.append_assoc,
      List.singleton_append]
  unfold AllowedRoute.LiesUnder AllowedRoute.StaysUnder
  rw [hpath, hprefix]
  exact normalPath_isPrefix_iff (octets start) (octets (route.remainder path))

/-- Under a plain prefix lies what has that very text, once it is normal. -/
theorem liesUnder_plain (hplain : PlainPath (octets route.wildcardPrefix)) :
    route.LiesUnder path ↔
      octets route.wildcardPrefix <+: normalPath (octets path.toList) := by
  unfold AllowedRoute.LiesUnder
  rw [normalPath_plain hplain]

/-- A path that follows the prefix without climbing above it is under it. -/
theorem staysUnder_of_above_eq_zero (h : (climbOf (octets (route.remainder path))).above = 0) :
    route.StaysUnder path := Climb.returns_of_above_eq_zero h

/-- **A pattern, and a boundary through one of its routes, permits paths that lie under the prefix
exactly where they stay under it.** -/
theorem liesUnder_iff (lib : SessionLibrary) :
    (∀ (route : AllowedRoute) (method path : String),
      endsWithWildcard route.pathPattern.toList = true →
        route.matchesRequest lib method path = .ok true →
          (route.LiesUnder path ↔ route.StaysUnder path)) ∧
    ∀ (b : AuthenticatedSessionBoundary) (now : ℤ) (request : RouteRequest)
      (decision : AuthenticatedRouteDecision),
      b.authorizeRoute lib now request = .ok decision →
        ∃ route ∈ b.allowedRoutes,
          route.matchesRequest lib request.method request.path = .ok true ∧
            (endsWithWildcard route.pathPattern.toList = true →
              (route.LiesUnder request.path ↔ route.StaysUnder request.path)) := by
  refine ⟨?_, ?_⟩
  · intro route method path hwild hmatches
    exact matched_liesUnder_iff hwild hmatches
  · intro b now request decision hdecision
    obtain ⟨route, hroute, hmatches⟩ :=
      AuthenticatedSessionBoundary.authorizeRoute_matches hdecision
    exact ⟨route, hroute, hmatches, fun hwild => matched_liesUnder_iff hwild hmatches⟩

/-! ### Inside and outside an account -/

section account

/-- A library on which the texts below are upper case already and expire in the year 2100. -/
def plainLibrary : SessionLibrary where
  fromIsoFormat s := if s = "2100-01-01T00:00:00+00:00" then .aware (some 4102444800000000)
    else .invalid
  upper s := s
  sha256 s := s

/-- Every page of the account. -/
def accountRoute : AllowedRoute where
  pathPattern := "/account/*"
  methods := ["GET"]
  pattern_safe := by decide +kernel
  methods_safe := by decide

/-- A boundary with this one route. -/
def accountBoundary : AuthenticatedSessionBoundary where
  campaignId := "campaign-18"
  operatorAlias := "operator-one"
  targetAlias := "owned-app"
  accountAlias := "account-one"
  authorizationReference := "authz-18"
  approvalReference := "approval-18"
  rulesOfEngagementReference := "roe-18"
  scopeSha256 := "aaaaaaaaaaaaaaaaaaaaaaaaaaaaaaaaaaaaaaaaaaaaaaaaaaaaaaaaaaaaaaaa"
  approvalScopeSha256 := "aaaaaaaaaaaaaaaaaaaaaaaaaaaaaaaaaaaaaaaaaaaaaaaaaaaaaaaaaaaaaaaa"
  approvalOperatorAlias := "operator-one"
  approvalExpiresUtc := "2100-01-01T00:00:00+00:00"
  approvedPermissions := ["authenticated_testing"]
  allowedRoutes := [accountRoute]

/-- A request for a page. -/
def accountRequest (path : String) : RouteRequest where
  method := "GET"
  path := path
  targetAlias := "owned-app"
  accountAlias := "account-one"

/-- A page of the account is permitted, and lies under the prefix. -/
theorem liesUnder_iff_settings :
    accountRoute.matchesRequest plainLibrary "GET" "/account/a/%2e%2e/settings" = .ok true ∧
      accountRoute.LiesUnder "/account/a/%2e%2e/settings" :=
  have hmatches : accountRoute.matchesRequest plainLibrary "GET" "/account/a/%2e%2e/settings" =
    .ok true := by decide +kernel
  ⟨hmatches, ((liesUnder_iff plainLibrary).1 accountRoute "GET" "/account/a/%2e%2e/settings"
    (by decide +kernel) hmatches).mpr (by decide +kernel)⟩

/-- The accepted boundary permits an encoded `..` that leads out of the account. -/
theorem encodedDots_leave :
    accountBoundary.postInit plainLibrary 0 = .ok () ∧
      validateRoutePath "/account/%2e%2e/admin" = .ok () ∧
      accountRoute.matchesRequest plainLibrary "GET" "/account/%2e%2e/admin" = .ok true ∧
      (∃ decision, accountBoundary.authorizeRoute plainLibrary 0
        (accountRequest "/account/%2e%2e/admin") = .ok decision) ∧
      normalPath (octets "/account/%2e%2e/admin".toList) = octets "/admin".toList ∧
      ¬ accountRoute.LiesUnder "/account/%2e%2e/admin" := by
  refine ⟨by decide +kernel, by decide +kernel, by decide +kernel, ?_, by decide +kernel,
    by decide +kernel⟩
  exact ⟨⟨true, "/account/%2e%2e/admin", "GET", ["allowed"]⟩, by decide +kernel⟩

end account

end Aotp.Session
