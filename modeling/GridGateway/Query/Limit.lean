import GridGateway.Entity.Status
import GridGateway.Query.Slot

/-!
# Pages of a listing

A listing is served a page at a time. Pages are counted from one; a page index or size of zero is refused when it
comes from a query.
-/

namespace GridGateway.Query

/-- The page index when a query names none. -/
def defaultPage : UInt64 := 1

/-- The page size when a query names none. -/
def defaultSize : UInt64 := 50

/-- Which page of a listing is wanted. -/
structure Limit where
  /-- The page, counted from one. -/
  page : UInt64 := defaultPage
  /-- The number of rows of a full page. -/
  size : UInt64 := defaultSize
  /-- Whether the total number of matches is wanted too. -/
  retCount : Bool := false
  /-- Whether the window starts at a random row. -/
  randomize : Bool := false
  deriving DecidableEq, Repr

namespace Limit

/-- The same page, with the total number of matches. -/
def withCount (l : Limit) : Limit := { l with retCount := true }

/-- The number of rows before the page, capped at the largest word. -/
def offset (l : Limit) : UInt64 :=
  let rows := (satSub l.page 1).toNat * l.size.toNat
  if rows < UInt64.size then .ofNat rows else .ofNat (UInt64.size - 1)

/-- The number of pages that hold `count` rows. -/
def pages (l : Limit) (count : UInt64) : UInt64 :=
  if l.size = 0 then 0 else .ofNat ((count.toNat + l.size.toNat - 1) / l.size.toNat)

/-- A page index or size, which must not be zero. -/
def readPositive (key raw : String) : Except QueryError UInt64 := do
  let n ← readNumber key raw
  if n = 0 then throw (.zeroLimit key) else return n

/-- The limit after one pair; a text that is no flag leaves a flag as it was. -/
def assign (l : Limit) (key raw : String) : Except QueryError (Option Limit) :=
  if key = "page" then (readPositive key raw).map fun n => some { l with page := n }
  else if key = "size" then (readPositive key raw).map fun n => some { l with size := n }
  else if key = "ret_count" then .ok (some { l with retCount := (readFlag raw).getD l.retCount })
  else if key = "randomize" then .ok (some { l with randomize := (readFlag raw).getD l.randomize })
  else .ok none

/-- The pairs of a limit: page and size always, the flags when they are set. -/
def pairs (l : Limit) : List (String × String) :=
  [("page", Text.decimal l.page.toNat), ("size", Text.decimal l.size.toNat)] ++
    (if l.retCount then [("ret_count", "true")] else []) ++
    (if l.randomize then [("randomize", "true")] else [])

end Limit

instance : Params Limit where
  unset := {}
  assign := Limit.assign
  pairs := Limit.pairs

end GridGateway.Query
