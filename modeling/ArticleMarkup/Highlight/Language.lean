import ArticleMarkup.Text.Ascii

/-!
# Languages

The languages that code blocks can name. A language has a name, a scope that holds for all of its
code, and extensions of file names that stand for it.

## Main definitions

- `Language` — name, scope and extensions
- `languages` — all known languages
- `findLanguage?` — the language that a word stands for

## Design notes

Where two languages claim one extension the later entry of the list has it, so the order of the
list matters.
-/

namespace ArticleMarkup.Highlight

/-- A language. -/
structure Language where
  /-- The name, for people. -/
  name : String
  /-- The scope of all code in the language. -/
  scope : String
  /-- Extensions and whole names of files. -/
  extensions : List String
deriving DecidableEq, Repr

/-- All known languages. -/
def languages : List Language := [
  ⟨"Plain Text", "text.plain", ["txt"]⟩,
  ⟨"ASP", "source.asp", ["asa"]⟩,
  ⟨"HTML (ASP)", "text.html.asp", ["asp"]⟩,
  ⟨"ActionScript", "source.actionscript.2", ["as"]⟩,
  ⟨"AppleScript", "source.applescript", ["applescript", "script editor"]⟩,
  ⟨"Batch File", "source.dosbatch", ["bat", "cmd"]⟩,
  ⟨"NAnt Build File", "source.nant-build", ["build"]⟩,
  ⟨"C#", "source.cs", ["cs", "csx"]⟩,
  ⟨"C++", "source.c++", ["cpp", "cc", "cp", "cxx", "c++", "C", "h", "hh", "hpp", "hxx", "h++",
    "inl", "ipp"]⟩,
  ⟨"C", "source.c", ["c", "h"]⟩,
  ⟨"CSS", "source.css", ["css", "css.erb", "css.liquid"]⟩,
  ⟨"Clojure", "source.clojure", ["clj"]⟩,
  ⟨"D", "source.d", ["d", "di"]⟩,
  ⟨"Diff", "source.diff", ["diff", "patch"]⟩,
  ⟨"Erlang", "source.erlang", ["erl", "hrl", "Emakefile", "emakefile"]⟩,
  ⟨"HTML (Erlang)", "text.html.erlang.yaws", ["yaws"]⟩,
  ⟨"Go", "source.go", ["go"]⟩,
  ⟨"Graphviz (DOT)", "source.dot", ["dot", "DOT", "gv"]⟩,
  ⟨"Groovy", "source.groovy", ["groovy", "gvy", "gradle"]⟩,
  ⟨"HTML", "text.html.basic", ["html", "htm", "shtml", "xhtml", "inc", "tmpl", "tpl"]⟩,
  ⟨"Haskell", "source.haskell", ["hs"]⟩,
  ⟨"Literate Haskell", "text.tex.latex.haskell", ["lhs"]⟩,
  ⟨"Java Server Page (JSP)", "text.html.jsp", ["jsp"]⟩,
  ⟨"Java", "source.java", ["java", "bsh"]⟩,
  ⟨"JavaDoc", "text.html.javadoc", []⟩,
  ⟨"Java Properties", "source.java-props", ["properties"]⟩,
  ⟨"JSON", "source.json", ["json", "sublime-settings", "sublime-menu", "sublime-keymap",
    "sublime-mousemap", "sublime-theme", "sublime-build", "sublime-project",
    "sublime-completions", "sublime-commands", "sublime-macro", "sublime-color-scheme"]⟩,
  ⟨"JavaScript", "source.js", ["js", "htc"]⟩,
  ⟨"Regular Expressions (Javascript)", "source.regexp.js", []⟩,
  ⟨"BibTeX", "text.bibtex", ["bib"]⟩,
  ⟨"LaTeX Log", "text.log.latex", []⟩,
  ⟨"LaTeX", "text.tex.latex", ["tex", "ltx"]⟩,
  ⟨"TeX", "text.tex", ["sty", "cls"]⟩,
  ⟨"Lisp", "source.lisp", ["lisp", "cl", "clisp", "l", "mud", "el", "scm", "ss", "lsp", "fasl"]⟩,
  ⟨"Lua", "source.lua", ["lua"]⟩,
  ⟨"Make Output", "source.build_output", []⟩,
  ⟨"Makefile", "source.makefile", ["make", "GNUmakefile", "makefile", "Makefile",
    "OCamlMakefile", "mak", "mk"]⟩,
  ⟨"Markdown", "text.html.markdown", ["md", "mdown", "markdown", "markdn"]⟩,
  ⟨"MultiMarkdown", "text.html.markdown.multimarkdown", []⟩,
  ⟨"MATLAB", "source.matlab", ["matlab"]⟩,
  ⟨"OCaml", "source.ocaml", ["ml", "mli"]⟩,
  ⟨"OCamllex", "source.ocamllex", ["mll"]⟩,
  ⟨"OCamlyacc", "source.ocamlyacc", ["mly"]⟩,
  ⟨"camlp4", "source.camlp4.ocaml", []⟩,
  ⟨"Objective-C++", "source.objc++", ["mm", "M", "h"]⟩,
  ⟨"Objective-C", "source.objc", ["m", "h"]⟩,
  ⟨"PHP Source", "source.php", []⟩,
  ⟨"PHP", "embedding.php", ["php", "php3", "php4", "php5", "php7", "phps", "phpt", "phtml"]⟩,
  ⟨"Pascal", "source.pascal", ["pas", "p", "dpr"]⟩,
  ⟨"Perl", "source.perl", ["pl", "pm", "pod", "t", "PL"]⟩,
  ⟨"Python", "source.python", ["py", "py3", "pyw", "pyi", "pyx", "pyx.in", "pxd", "pxd.in",
    "pxi", "pxi.in", "rpy", "cpy", "SConstruct", "Sconstruct", "sconstruct", "SConscript",
    "gyp", "gypi", "Snakefile", "wscript"]⟩,
  ⟨"Regular Expressions (Python)", "source.regexp.python", []⟩,
  ⟨"R Console", "source.r-console", []⟩,
  ⟨"R", "source.r", ["R", "r", "s", "S", "Rprofile"]⟩,
  ⟨"Rd (R Documentation)", "text.tex.latex.rd", ["rd"]⟩,
  ⟨"HTML (Rails)", "text.html.ruby", ["rails", "rhtml", "erb", "html.erb"]⟩,
  ⟨"JavaScript (Rails)", "source.js.rails", ["js.erb"]⟩,
  ⟨"Ruby Haml", "text.haml", ["haml", "sass"]⟩,
  ⟨"Ruby on Rails", "source.ruby.rails", ["rxml", "builder"]⟩,
  ⟨"SQL (Rails)", "source.sql.ruby", ["erbsql", "sql.erb"]⟩,
  ⟨"Regular Expression", "source.regexp", ["re"]⟩,
  ⟨"reStructuredText", "text.restructuredtext", ["rst", "rest"]⟩,
  ⟨"Ruby", "source.ruby", ["rb", "Appfile", "Appraisals", "Berksfile", "Brewfile", "capfile",
    "cgi", "Cheffile", "config.ru", "Deliverfile", "Fastfile", "fcgi", "Gemfile", "gemspec",
    "Guardfile", "irbrc", "jbuilder", "podspec", "prawn", "rabl", "rake", "Rakefile",
    "Rantfile", "rbx", "rjs", "ruby.rail", "Scanfile", "simplecov", "Snapfile", "thor",
    "Thorfile", "Vagrantfile"]⟩,
  ⟨"Cargo Build Results", "source.build_results", []⟩,
  ⟨"Rust", "source.rust", ["rs"]⟩,
  ⟨"SQL", "source.sql", ["sql", "ddl", "dml"]⟩,
  ⟨"Scala", "source.scala", ["scala", "sbt"]⟩,
  ⟨"Bourne Again Shell (bash)", "source.shell.bash", ["sh", "bash", "zsh", "fish",
    ".bash_aliases", ".bash_completions", ".bash_functions", ".bash_login", ".bash_logout",
    ".bash_profile", ".bash_variables", ".bashrc", ".profile", ".textmate_init"]⟩,
  ⟨"Shell-Unix-Generic", "source.shell", []⟩,
  ⟨"commands-builtin-shell-bash", "commands.builtin.shell.bash", []⟩,
  ⟨"HTML (Tcl)", "text.html.tcl", ["adp"]⟩,
  ⟨"Tcl", "source.tcl", ["tcl"]⟩,
  ⟨"Textile", "text.html.textile", ["textile"]⟩,
  ⟨"XML", "text.xml", ["xml", "xsd", "xslt", "tld", "dtml", "rss", "opml", "svg"]⟩,
  ⟨"YAML", "source.yaml", ["yaml", "yml", "sublime-syntax"]⟩]

/-- The last language of a list with a property. -/
def lastLanguage? (p : Language → Bool) (all : List Language) : Option Language :=
  all.reverse.find? p

/-- **The language that a word stands for**: one with this extension, else one with this name. The
case of letters does not matter, and of several languages the last one is meant. -/
def findLanguage? (word : String) : Option Language :=
  match lastLanguage? (fun l => l.extensions.any (Text.sameIgnoringCase word)) languages with
  | some l => some l
  | none => lastLanguage? (fun l => Text.sameIgnoringCase word l.name) languages

end ArticleMarkup.Highlight
