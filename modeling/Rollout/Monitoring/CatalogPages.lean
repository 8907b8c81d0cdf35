import Rollout.Monitoring.Page
import Rollout.Monitoring.Target
import Rollout.Resolution.Requests
import Rollout.Text.Split

/-!
# The catalog pages

Three pages show what a resolver knows: the decision for every image type, one version by its
exact label, and the rampup plan of a type with the buckets of its entries. Their paths are
matched segment by segment, without reading percent escapes; the bytes of a segment are read as
UTF-8. A path that would match with one slash in place of several is redirected.
-/

namespace Rollout.Monitoring

/-- A page of the catalog. -/
inductive CatalogRoute where
  /-- The decisions for all types. -/
  | decisions
  /-- One version of a type. -/
  | version (name label : String)
  /-- The plan of a type. -/
  | plan (name : String)
  deriving DecidableEq, Repr

namespace CatalogRoute

/-- The page at a path, given by its segments. -/
def ofSegments? : List String → Option CatalogRoute
  | ["", "api", "v1", "image-versions"] => some decisions
  | ["", "api", "v1", "image-versions", name, label] =>
    if name = "" || label = "" then none else some (version name label)
  | ["", "api", "v1", "image-types", name, "rampup"] =>
    if name = "" then none else some (plan name)
  | _ => none

/-- The page at a path of characters. -/
def ofPath? (path : List Char) : Option CatalogRoute :=
  ofSegments? ((Text.splitAll '/' path).map String.ofList)

/-- The path with one slash in place of several. -/
def joinSlashes : List Char → List Char
  | '/' :: '/' :: rest => joinSlashes ('/' :: rest)
  | c :: rest => c :: joinSlashes rest
  | [] => []

/-- The characters of a path, with one slash at its start. -/
def pathChars (path : List Char) : List Char :=
  match Text.decodeUtf8Lossy (Target.bytesOf path) with
  | [] => []
  | chars => '/' :: chars.dropWhile (· == '/')

/-- The path lies under the one for static files, of which there are none. -/
def isStatic (path : List Char) : Bool :=
  "/static/".toList.isPrefixOf path && (path.drop "/static/".length).head?.any (· ≠ '/')

/-- The path names no page, but would with one slash in place of several. -/
def isRedirected (path : List Char) : Bool :=
  let joined := joinSlashes path
  !isStatic path && (isStatic joined || (ofPath? joined).isSome)

end CatalogRoute

/-- The page with the decisions for all types. -/
def decisionsPage (decisions : List (TypeKey × Decision)) : Page :=
  .catalog 200 (.record
    [("image_types",
       .record (decisions.map fun (key, decision) => (key.text, decision.toDatum))),
     ("total", .int decisions.length)])

/-- The page of a look-up that failed. -/
def faultPage (fault : Fault) : Page :=
  match fault with
  | .versionNotFound .. => .catalogRefusal .notFound fault.message
  | .invalidPlan .. => .catalogRefusal .invalidPlan fault.message
  | _ => .plain 500

/-- The page of one version, in one of the states that the query asks for. -/
def versionPage (r : Resolver) (name label : String) (query : List Char) : Lookup Page :=
  let answer : Lookup Page := do
    let values ← Lookup.settle (Target.textValues query, [])
    let states := values.filterMap fun (key, value) =>
      if key = "state" then some (Datum.text value) else none
    let info ← r.exact (.text name) (.text label) (.list states)
    return .catalog 200 (.record
      [("image_type", .text (normalizeName name)), ("version", info.version),
       ("path", info.path), ("state", .text info.state.name)])
  answer.orElse fun fault =>
    if fault.isRefusal then return .catalogRefusal .badRequest fault.message
    else return faultPage fault

/-- An entry of a plan with its buckets, as the page shows it. -/
def entryDatum (entry : PlanEntry) (range : Datum × Datum) : Except Fault Datum := do
  let buckets := if ← range.1.atMost range.2 then .list [range.1, range.2] else .null
  return .record
    [("version", entry.version), ("percentage", entry.percentage), ("buckets", buckets)]

/-- The page of a plan that is walked in the given order. -/
def orderedPlanPage (r : Resolver) (key : TypeKey) (plan : Plan) : Except Fault Page := do
  let entries ← (plan.zip (← plan.bucketRanges)).mapM fun (entry, range) => entryDatum entry range
  return .catalog 200 (.record
    [("image_type", .text key.text), ("plan_order", r.planOrder),
     ("allocated", ← plan.total), ("entries", .list entries)])

/-- The page of the plan of a type. -/
def planPage (r : Resolver) (name : String) : Lookup Page :=
  let key := TypeKey.ofName name
  let wanted := NameSet.ofList [key.text]
  let answer : Lookup Page := do
    let book ← Lookup.ask (.plansFor wanted) (r.sources.plansFor · wanted)
    let plans ← Lookup.settle (book.indexed wanted)
    match (plans.find? key).getD [] with
    | [] =>
      return .catalogRefusal .notFound s!"No active rampup plan for image type {key.text}"
    | plan =>
      let ordered ← Lookup.settle (plan.order (.text key.text) (.ofName r.planOrder))
      Lookup.give (orderedPlanPage r key ordered)
  answer.orElse fun fault => return faultPage fault

end Rollout.Monitoring
