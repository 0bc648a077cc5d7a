namespace Turtle.CommandLine

def versionText : String := "logo-turtle v0.1.0"

def lines (texts : List String) : String :=
  String.join (texts.map (· ++ "\n"))

/-- The usage lists every option and then the script. -/
def usageText : String :=
  lines
    ["usage: logo [-h] [-e SOURCE] [-o OUTPUT] [-i] [--parse] [--width WIDTH]",
      "            [--height HEIGHT] [--line-width LINE_WIDTH] [--stroke STROKE]",
      "            [--start-x START_X] [--start-y START_Y] [--heading HEADING]",
      "            [--max-repeat MAX_REPEAT] [--max-call-depth MAX_CALL_DEPTH]",
      "            [--debug] [--version]",
      "            [script]"]

/-- The help text describes every option and ends with examples. -/
def helpText : String :=
  usageText ++ lines
    ["",
      "Logo turtle-graphics interpreter",
      "",
      "positional arguments:",
      "  script                Logo script file to execute",
      "",
      "options:",
      "  -h, --help            show this help message and exit",
      "  -e SOURCE, --eval SOURCE",
      "                        Program text to run instead of a file",
      "  -o OUTPUT, --output OUTPUT",
      "                        SVG file to write (default: out.svg)",
      "  -i, --interactive     Start interactive mode",
      "  --parse               Parse only and show the AST",
      "  --width WIDTH         Canvas width in pixels",
      "  --height HEIGHT       Canvas height in pixels",
      "  --line-width LINE_WIDTH",
      "                        Stroke width",
      "  --stroke STROKE       Stroke colour",
      "  --start-x START_X     Starting x (default: canvas centre)",
      "  --start-y START_Y     Starting y (default: canvas centre)",
      "  --heading HEADING     Starting heading in degrees",
      "  --max-repeat MAX_REPEAT",
      "                        Largest repeat count allowed",
      "  --max-call-depth MAX_CALL_DEPTH",
      "                        Deepest procedure nesting allowed",
      "  --debug               Enable debug output for all stages",
      "  --version             show program's version number and exit",
      "",
      "Examples:",
      "  logo square.logo                  # Run a script, write out.svg",
      "  logo -e \"repeat 4 [fd 100 rt 90]\"  # Run literal source",
      "  logo --parse square.logo          # Show the parsed AST",
      "  logo -i                           # Interactive mode",
      "        "]

end Turtle.CommandLine
