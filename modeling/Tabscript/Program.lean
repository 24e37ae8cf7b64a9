import Tabscript.Script

/-!
The generated program. It has three parts with a blank line between them: a header with the shared state and the
declaration of every operation, the body of the one operation that is generated with it, and a main function
with the statements of the script in order.
-/
namespace Tabscript

/-- A whole program and the number of statements in it. -/
structure Program where
  source : String
  statementCount : Nat
  deriving DecidableEq, Repr

namespace Program

/-- The line that opens a block of code. -/
def opened (head : String) : String :=
  head ++ " " ++ '{'.toString

/-- Moves lines in by one level; blank lines stay blank. -/
def indent (ls : List String) : List String :=
  ls.map fun line => if line.isEmpty then line else "    " ++ line

/-- Blocks of code that belong together, like the branches of a condition: each opens on the line that closes the
one before it, of which `lead` is left over. -/
def branches (lead : String) : List (String × List String) → List String
  | [] => ['}'.toString]
  | (head, inside) :: more => opened (lead ++ head) :: (indent inside ++ branches ('}'.toString ++ " ") more)

def block (head : String) (inside : List String) : List String :=
  branches "" [(head, inside)]

/-- The lines before the declarations. -/
def preamble : List String := [
  "// Auto-generated by dsl2cpp - DO NOT EDIT",
  "#include <iostream>",
  "#include <fstream>",
  "#include <sstream>",
  "#include <vector>",
  "#include <string>",
  "#include <set>",
  "#include <map>",
  "#include <numeric>",
  "#include <algorithm>",
  "#include <cmath>",
  "#include <cstdlib>",
  "",
  "using namespace std;",
  ""] ++ [
  opened "struct CSVRow",
  "    vector<string> data;",
  '}'.toString ++ ";"] ++ [
  "",
  "// Shared state owned by the helper library.",
  "extern vector<CSVRow> dataset;",
  "extern double model_slope;",
  "extern double model_intercept;"]

/-- What the operation that is generated with the program does for one column. -/
def describeColumn : List String := [
  "cout << \"\\n\" << header[col] << \":\" << endl;",
  "",
  "vector<double> values;",
  "bool numeric = true;"] ++
  block "for (size_t row = 1; row < dataset.size(); row++)" (
    block "if (col >= dataset[row].data.size())" [
      "numeric = false;",
      "break;"] ++
    branches "" [
      ("try", ["values.push_back(stod(dataset[row].data[col]));"]),
      ("catch (...)", ["numeric = false;", "break;"])]) ++ [
  ""] ++
  branches "" [
    ("if (numeric && !values.empty())", [
      "double sum = accumulate(values.begin(), values.end(), 0.0);",
      "sort(values.begin(), values.end());",
      "cout << \"  Type: Numeric\" << endl;",
      "cout << \"  Mean: \" << sum / values.size() << endl;",
      "cout << \"  Median: \" << values[values.size() / 2] << endl;",
      "cout << \"  Min: \" << values.front() << endl;",
      "cout << \"  Max: \" << values.back() << endl;"]),
    ("else", [
      "set<string> unique_values;"] ++
      block "for (size_t row = 1; row < dataset.size(); row++)" (
        block "if (col < dataset[row].data.size())" [
          "unique_values.insert(dataset[row].data[col]);"]) ++ [
      "cout << \"  Type: Categorical\" << endl;",
      "cout << \"  Unique values: \" << unique_values.size() << endl;"])]

/-- The lines of the operation that is generated with the program. -/
def describeData : List String :=
  block "void describe_data()" (
    block "if (dataset.empty())" [
      "cout << \"Dataset is empty\" << endl;",
      "return;"] ++ [
    "",
    "const vector<string>& header = dataset[0].data;",
    "cout << \"Dataset Summary:\" << endl;",
    "cout << \"Number of rows: \" << dataset.size() - 1 << endl;",
    "cout << \"Number of columns: \" << header.size() << endl;",
    "cout << \"\\nColumns:\" << endl;",
    ""] ++
    block "for (size_t col = 0; col < header.size(); col++)" describeColumn)

/-- Lines as one text, without a line feed at the end. -/
def joinLines (ls : List String) : String :=
  String.intercalate "\n" ls

/-- The preamble and the declaration of every operation. -/
def header : String :=
  joinLines (preamble ++ ["", "// Operation library"] ++ catalog.map Entry.declaration)

/-- The main function, each statement on a line of its own. -/
def mainFunction (statements : List Statement) : String :=
  opened "int main()" ++ "\n" ++ String.join (statements.map fun s => "    " ++ s.text ++ "\n") ++
    "    return 0;\n" ++ '}'.toString ++ "\n"

/-- The program that carries out the statements in order. -/
def assemble (statements : List Statement) : Program where
  source := header ++ "\n\n" ++ joinLines describeData ++ "\n\n" ++ mainFunction statements
  statementCount := statements.length

end Program
end Tabscript
