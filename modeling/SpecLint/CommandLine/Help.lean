import SpecLint.CommandLine.Request

namespace SpecLint
open Text

structure HelpEntry where
  term : Text
  meaning : Text

structure HelpSection where
  heading : Text
  entries : List HelpEntry

-- What a topic is for, how its command is written, and the parts of that in order.
structure HelpPage where
  summary : Text
  usage : Text
  sections : List HelpSection

namespace HelpSection

def width (part : HelpSection) : Nat :=
  part.entries.foldl (fun width entry => Nat.max width entry.term.length) 0

def besideLine (part : HelpSection) (entry : HelpEntry) : Text :=
  "  ".toList ++ entry.term ++ List.replicate (part.width + 2 - entry.term.length) ' ' ++
    entry.meaning

def belowLine (entry : HelpEntry) : Text :=
  "  ".toList ++ entry.term ++ "\n          ".toList ++ entry.meaning

-- Meanings stand in a column beside their terms as long as all of them fit a page of a hundred
-- columns. When one does not, each goes below its term.
def entryLines (part : HelpSection) : List Text :=
  let beside := part.entries.map part.besideLine
  if beside.all (·.length ≤ 100) then beside else part.entries.map belowLine

def render (part : HelpSection) : Text :=
  join ['\n'] ((part.heading ++ [':']) :: part.entryLines)

end HelpSection

def HelpPage.render (page : HelpPage) : Text :=
  join "\n\n".toList
    (page.summary :: ("Usage: simplex-lint ".toList ++ page.usage) ::
      page.sections.map HelpSection.render)

namespace OptionForm

-- The value is called as the option is, in capitals.
def valueName (form : OptionForm) : Text :=
  form.long.map fun c => if c = '-' then '_' else c.toUpper

-- Options without a letter are set in as far as the others.
def term (form : OptionForm) : Text :=
  let letter := match form.short with
    | some letter => ['-', letter, ',', ' ']
    | none => "    ".toList
  letter ++ "--".toList ++ form.long ++ " <".toList ++ form.valueName ++ ['>']

def entry (form : OptionForm) : HelpEntry := ⟨form.term,form.meaning⟩

end OptionForm

namespace Topic

def helpFlag : HelpEntry := ⟨"-h, --help".toList,"Print help".toList⟩

def versionFlag : HelpEntry := ⟨"-V, --version".toList,"Print version".toList⟩

-- Every command takes the flag for help after its own options.
def optionsOf (form : CommandForm) : HelpSection :=
  ⟨"Options".toList,form.options.map OptionForm.entry ++ [helpFlag]⟩

def operand (term meaning : String) : HelpSection :=
  ⟨"Arguments".toList,[⟨term.toList,meaning.toList⟩]⟩

def summary : Topic → Text
  | program => "Validate Simplex specifications for autonomous agents".toList
  | lint => "Lint a spec file, a directory of specs, or stdin (\x60-\x60)".toList
  | parse => "Parse a spec and show its functions, data blocks, and constraints".toList
  | init => "Write the default configuration".toList
  | help => "Print this message or the help of the given subcommand(s)".toList

def commands : HelpSection :=
  { heading := "Commands".toList
    entries :=
      [⟨"lint".toList,lint.summary⟩, ⟨"parse".toList,parse.summary⟩, ⟨"init".toList,init.summary⟩,
        ⟨"help".toList,help.summary⟩] }

def usage : Topic → Text
  | program => "<COMMAND>".toList
  | lint => "lint [OPTIONS] [PATH]".toList
  | parse => "parse [OPTIONS] <PATH>".toList
  | init => "init [OPTIONS]".toList
  | help => "help [COMMAND]...".toList

def sections : Topic → List HelpSection
  | program => [commands,⟨"Options".toList,[helpFlag,versionFlag]⟩]
  | lint =>
    [operand "[PATH]" "Path to file or directory to lint [default: .]",optionsOf Request.lintForm]
  | parse => [operand "<PATH>" "Path to file (\x60-\x60 for stdin)",optionsOf Request.parseForm]
  | init => [optionsOf Request.initForm]
  | help => [operand "[COMMAND]..." "Print help for the subcommand(s)"]

def page (topic : Topic) : HelpPage := ⟨topic.summary,topic.usage,topic.sections⟩

end Topic
end SpecLint
