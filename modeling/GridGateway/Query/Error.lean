import GridGateway.Text.Quoted

/-!
# Refused query parameters

The reasons for which the parameters of a query are refused, each with its text.
-/

namespace GridGateway.Query

/-- Why a query parameter was refused. -/
inductive QueryError where
  /-- The value of a number, or an item of a list of numbers, is no unsigned 64-bit integer. -/
  | invalidInteger (key value : String)
  /-- A page index or page size is zero. -/
  | zeroLimit (key : String)
  /-- A value lies outside the closed set of its parameter. -/
  | invalidChoice (key value expected : String)
  deriving DecidableEq, Repr

/-- The text shown to whoever sent the query. -/
def QueryError.message : QueryError → String
  | .invalidInteger key value =>
    "invalid value " ++ Text.quoted value ++ " for " ++ key ++ ": expected an unsigned integer"
  | .zeroLimit key => key ++ " must be greater than zero"
  | .invalidChoice key value expected =>
    "invalid " ++ key ++ " " ++ Text.quoted value ++ ", expected one of " ++ expected

end GridGateway.Query
