/-
The comment styles of the languages that are known by name, and the ways a
language is found: by its name or another spelling of it, by a file
extension, or by a file name that stands for itself. Whatever is not found
here has the general style, which knows the commonest marks, so that a file
in an unknown language is still read usefully.
-/
import Marginalia.Text.Blank
import Marginalia.Text.Lowercase
import Marginalia.Comment.Style
import Marginalia.Path

namespace Marginalia.Catalog

open Comment (Style)

-- ============================================================== table

/-- The style of everything that is not known. -/
def general : Style :=
  ⟨"default", ["#", "//"], [("/*", "*/"), ("<!--", "-->")]⟩

/-- A known language: its comment style, which bears its name, the other
spellings of that name, the extensions of its files, in lower case and with
the dot, and the file names that need no extension. -/
structure Entry where
  style : Style
  spellings : List Text
  extensions : List Text
  fileNames : List Text

/-- The known languages. -/
def entries : List Entry :=
  [ ⟨⟨"python", ["#"], []⟩, ["py"], [".py", ".pyi"], []⟩,
    ⟨⟨"shell", ["#"], []⟩, ["sh", "bash", "zsh"],
      [".sh", ".bash", ".zsh"], []⟩,
    ⟨⟨"ruby", ["#"], [("=begin", "=end")]⟩, ["rb"], [".rb"],
      ["rakefile", "gemfile"]⟩,
    ⟨⟨"perl", ["#"], []⟩, ["pl"], [".pl", ".pm"], []⟩,
    ⟨⟨"r", ["#"], []⟩, [], [".r"], []⟩,
    ⟨⟨"yaml", ["#"], []⟩, ["yml"], [".yaml", ".yml"], []⟩,
    ⟨⟨"toml", ["#"], []⟩, [], [".toml"], []⟩,
    ⟨⟨"make", ["#"], []⟩, ["makefile"], [".mk"],
      ["makefile", "gnumakefile"]⟩,
    ⟨⟨"dockerfile", ["#"], []⟩, [], [], ["dockerfile"]⟩,
    ⟨⟨"cmake", ["#"], [("#[[", "]]")]⟩, [], [".cmake"],
      ["cmakelists.txt"]⟩,
    ⟨⟨"powershell", ["#"], [("<#", "#>")]⟩, ["ps1"], [".ps1"], []⟩,
    ⟨⟨"ini", [";", "#"], []⟩, ["cfg"], [".ini", ".cfg"], []⟩,
    ⟨⟨"c", ["//"], [("/*", "*/")]⟩, ["h"], [".c", ".h"], []⟩,
    ⟨⟨"cpp", ["//"], [("/*", "*/")]⟩, ["c++", "cc", "cxx", "hpp"],
      [".cc", ".cpp", ".cxx", ".hpp", ".hh"], []⟩,
    ⟨⟨"csharp", ["//"], [("/*", "*/")]⟩, ["cs", "c#"], [".cs"], []⟩,
    ⟨⟨"java", ["//"], [("/*", "*/")]⟩, [], [".java"], []⟩,
    ⟨⟨"kotlin", ["//"], [("/*", "*/")]⟩, ["kt"], [".kt", ".kts"], []⟩,
    ⟨⟨"scala", ["//"], [("/*", "*/")]⟩, [], [".scala"], []⟩,
    ⟨⟨"swift", ["//"], [("/*", "*/")]⟩, [], [".swift"], []⟩,
    ⟨⟨"go", ["//"], [("/*", "*/")]⟩, [], [".go"], []⟩,
    ⟨⟨"rust", ["//"], [("/*", "*/")]⟩, ["rs"], [".rs"], []⟩,
    ⟨⟨"javascript", ["//"], [("/*", "*/")]⟩, ["js", "jsx", "mjs"],
      [".js", ".jsx", ".mjs", ".cjs"], []⟩,
    ⟨⟨"typescript", ["//"], [("/*", "*/")]⟩, ["ts", "tsx"],
      [".ts", ".tsx"], []⟩,
    ⟨⟨"dart", ["//"], [("/*", "*/")]⟩, [], [".dart"], []⟩,
    ⟨⟨"php", ["//", "#"], [("/*", "*/")]⟩, [], [".php"], []⟩,
    ⟨⟨"css", [], [("/*", "*/")]⟩, [], [".css"], []⟩,
    ⟨⟨"scss", ["//"], [("/*", "*/")]⟩, [], [".scss", ".less"], []⟩,
    ⟨⟨"sql", ["--"], [("/*", "*/")]⟩, [], [".sql"], []⟩,
    ⟨⟨"lua", ["--"], [("--[[", "]]")]⟩, [], [".lua"], []⟩,
    ⟨⟨"haskell", ["--"], [("\x7b-", "-\x7d")]⟩, ["hs"], [".hs"], []⟩,
    ⟨⟨"elm", ["--"], [("\x7b-", "-\x7d")]⟩, [], [".elm"], []⟩,
    ⟨⟨"html", [], [("<!--", "-->")]⟩, ["htm"], [".html", ".htm"], []⟩,
    ⟨⟨"xml", [], [("<!--", "-->")]⟩, [], [".xml", ".svg"], []⟩,
    ⟨⟨"markdown", [], [("<!--", "-->")]⟩, ["md"], [".md", ".markdown"],
      []⟩,
    ⟨⟨"vue", ["//"], [("/*", "*/"), ("<!--", "-->")]⟩, [], [".vue"], []⟩,
    ⟨⟨"lisp", [";"], [("#|", "|#")]⟩, ["el"], [".lisp", ".el"], []⟩,
    ⟨⟨"clojure", [";"], []⟩, ["clj"], [".clj"], []⟩,
    ⟨⟨"erlang", ["%"], []⟩, ["erl"], [".erl"], []⟩,
    ⟨⟨"latex", ["%"], []⟩, ["tex"], [".tex"], []⟩,
    ⟨⟨"matlab", ["%"], [("%\x7b", "%\x7d")]⟩, [], [".m"], []⟩,
    ⟨⟨"fortran", ["!"], []⟩, ["f90"], [".f90"], []⟩,
    ⟨⟨"vb", ["'"], []⟩, ["vbs"], [".vb"], []⟩,
    ⟨⟨"batch", ["::", "REM ", "rem "], []⟩, ["bat", "cmd"],
      [".bat", ".cmd"], []⟩,
    ⟨⟨"ocaml", [], [("(*", "*)")]⟩, ["ml"], [".ml"], []⟩ ]

-- ============================================================ look-up

/-- The language called `name`. -/
def named? (name : Text) : Option Entry :=
  entries.find? fun e => e.style.name == name

/-- The language that `name` is another spelling of. -/
def spelled? (name : Text) : Option Entry :=
  entries.find? fun e => e.spellings.contains name

/-- The language of an extension. -/
def ofExtension? (extension : Text) : Option Entry :=
  entries.find? fun e => e.extensions.contains extension

/-- The language of a file name that stands for itself. -/
def ofFileName? (name : Text) : Option Entry :=
  entries.find? fun e => e.fileNames.contains name

/-- A hint without leading dots, and by its main spelling. -/
def mainSpelling (hint : Text) : Text :=
  let name := hint.dropWhile (· == .scalar '.')
  match spelled? name with
  | some e => e.style.name
  | none => name

/-- The known style for a hint in lower case: a language, another spelling
of one, or an extension with or without its dot. -/
def knownStyle (hint : Text) : Style :=
  let extension := .scalar '.' :: hint.dropWhile (· == .scalar '.')
  match (named? (mainSpelling hint)).or (ofExtension? extension) with
  | some e => e.style
  | none => general

/-- The style for a language hint. Case and surrounding white space do not
matter. Styles in `extra` come before the known ones, looked up by the hint
itself and then by its main spelling. No hint, or an unknown one, gives the
general style. -/
def styleFor (hint : Option Text) (extra : List (Text × Style)) : Style :=
  match hint with
  | none | some [] => general
  | some hint =>
    let raw := hint.trim.lower
    match (extra.lookup raw).or (extra.lookup (mainSpelling raw)) with
    | some s => s
    | none => knownStyle raw

/-- An extension as it is looked up: in lower case, after one dot. -/
def overrideKey (extension : Text) : Text :=
  .scalar '.' :: extension.lower.dropWhile (· == .scalar '.')

/-- The language of a file by its path. Overrides map extensions to
languages and come before everything else, a later one before an earlier
one of the same extension; then come the names that stand for themselves,
then the known extensions. -/
def languageOf (p : Path) (overrides : List (Text × Text)) : Option Text :=
  let extension := p.extension.lower
  match overrides.reverse.find? fun o => overrideKey o.1 == extension with
  | some o => some o.2
  | none =>
    ((ofFileName? p.name.lower).or (ofExtension? extension)).map
      (·.style.name)

/-- The names of the known languages in alphabetical order. -/
def languages : List Text :=
  (entries.map (·.style.name)).mergeSort Text.le

end Marginalia.Catalog
