/-!
The catalog of operations. An entry names an operation and its parameters in order; each parameter has a slot, which
says what may stand there. How many arguments an entry takes and how it is declared in the generated program both
follow from its parameters.
-/
namespace Tabscript

/-- What may stand at a parameter. -/
inductive Slot where
  /-- Any plain argument, passed on as a text. -/
  | text
  /-- A number, passed on as it was written. -/
  | number
  /-- A number without point and exponent that fits 32 bits. -/
  | integer
  /-- True or false; may be left out, and then has the given value. -/
  | flag (default : Bool)
  /-- All arguments that are left, at least one. -/
  | values
  deriving DecidableEq, Repr

/-- A named parameter. -/
structure Param where
  name : String
  slot : Slot
  deriving DecidableEq, Repr

/-- How many arguments an operation takes. -/
inductive Arity where
  | exact (count : Nat)
  | range (least most : Nat)
  | atLeast (least : Nat)
  deriving DecidableEq, Repr

namespace Arity

def accepts : Arity → Nat → Bool
  | .exact n, count => count == n
  | .range least most, count => least ≤ count && count ≤ most
  | .atLeast least, count => least ≤ count

/-- The noun for a number of arguments. -/
def noun (n : Nat) : String :=
  if n = 1 then "argument" else "arguments"

/-- How messages and listings describe a number of arguments. -/
def describe : Arity → String
  | .exact n => if n = 0 then "no arguments" else "exactly " ++ toString n ++ " " ++ noun n
  | .range least most =>
    let between := if most = least + 1 then " or " else " to "
    toString least ++ between ++ toString most ++ " arguments"
  | .atLeast n => "at least " ++ toString n ++ " " ++ noun n

end Arity

/-- An operation and its parameters. -/
structure Entry where
  name : String
  params : List Param
  deriving DecidableEq, Repr

namespace Entry

def isOptional (p : Param) : Bool :=
  match p.slot with
  | .flag _ => true
  | _ => false

/-- Whether a parameter takes all arguments that are left. -/
def isVariadic (p : Param) : Bool :=
  p.slot == .values

/-- How many arguments the parameters admit. -/
def arity (entry : Entry) : Arity :=
  let optional := entry.params.countP isOptional
  let required := entry.params.length - optional
  if entry.params.any isVariadic then .atLeast required
  else if optional = 0 then .exact required
  else .range required (required + optional)

/-- A parameter in the declaration of its operation. -/
def declareParam (p : Param) : String :=
  match p.slot with
  | .text => "const string& " ++ p.name
  | .number => "double " ++ p.name
  | .integer => "int " ++ p.name
  | .flag default => "bool " ++ p.name ++ " = " ++ (if default then "true" else "false")
  | .values => "const vector<string>& " ++ p.name

/-- The declaration of the operation in the generated program. -/
def declaration (entry : Entry) : String :=
  "void " ++ entry.name ++ "(" ++ String.intercalate ", " (entry.params.map declareParam) ++ ");"

end Entry

/-- An entry all of whose parameters are texts. -/
def textEntry (name : String) (params : List String) : Entry :=
  ⟨name, params.map fun p => ⟨p, .text⟩⟩

/-- Every operation, in the order in which they are declared and listed. -/
def catalog : List Entry := [
  textEntry "load_csv" ["filename"],
  textEntry "print" ["message"],
  textEntry "remove_nulls" [],
  textEntry "describe_data" [],
  textEntry "fill_nulls" ["value"],
  textEntry "rename_column" ["old_name", "new_name"],
  ⟨"add_column", [⟨"column_name", .text⟩, ⟨"values", .values⟩]⟩,
  textEntry "drop_column" ["column_name"],
  textEntry "filter_rows" ["column_name", "value"],
  ⟨"sort_data", [⟨"column_name", .text⟩, ⟨"ascending", .flag true⟩]⟩,
  textEntry "group_by_data" ["column"],
  textEntry "pivot_table" ["index", "columns", "values"],
  textEntry "mean" ["column"],
  textEntry "correlation" ["col1", "col2"],
  textEntry "standard_deviation" ["column"],
  textEntry "median" ["column"],
  textEntry "variance" ["column"],
  textEntry "plot" ["col1", "col2"],
  textEntry "scatter_plot" ["col1", "col2"],
  textEntry "bar_chart" ["column"],
  textEntry "pie_chart" ["column"],
  textEntry "histogram" ["column"],
  textEntry "train_model" ["feature", "target"],
  textEntry "predict" [],
  textEntry "save_model" ["filename"],
  textEntry "evaluate_model" [],
  ⟨"split_data", [⟨"train_ratio", .number⟩]⟩,
  textEntry "normalize" ["column"],
  textEntry "standardize" ["column"],
  ⟨"scale_data", [⟨"column", .text⟩, ⟨"new_min", .number⟩, ⟨"new_max", .number⟩]⟩,
  textEntry "remove_stopwords" ["text_column"],
  textEntry "stem_text" ["text_column"],
  textEntry "capitalize_words" ["text_column"],
  textEntry "count_words" ["text_column"],
  ⟨"rolling_mean", [⟨"column", .text⟩, ⟨"window_size", .integer⟩]⟩,
  textEntry "resample_data" ["frequency"],
  textEntry "detect_trends" ["column"],
  textEntry "seasonal_decompose" ["column"],
  textEntry "detect_anomalies" ["column"],
  textEntry "get_shape" [],
  textEntry "data_quality_report" [],
  textEntry "get_column_profile" ["column"],
  textEntry "categorize_column" ["column"],
  textEntry "describe" []]

/-- The entry of an operation, if there is one. -/
def lookup (name : String) : Option Entry :=
  catalog.find? fun entry => entry.name == name

end Tabscript
