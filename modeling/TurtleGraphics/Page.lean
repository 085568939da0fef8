import TurtleGraphics.Settings
import TurtleGraphics.Text.Lines

/-! # Pages

A page is an HTML document with a canvas and a script. The script defines what compiled statements
call and assign, and then holds the statements themselves. They take the place of a marked line, so
text that reads like the mark is replaced as well.
-/

namespace TurtleGraphics.Page

/-- The space in front of the statements. -/
def margin : List Char :=
  "        ".toList

/-- The line whose place the statements take. -/
def mark : List Char :=
  margin ++ "// \x7b\x7bcompiled-code\x7d\x7d".toList

def join (lines : List String) : List Char :=
  lines.flatMap fun line => line.toList ++ ['\n']

def opening : List String :=
  ["<!DOCTYPE html>",
   "<html lang=\"en\">",
   "<head>",
   "    <meta charset=\"UTF-8\">",
   "    <meta name=\"viewport\" content=\"width=device-width, initial-scale=1.0\">"]

def definitions (settings : Settings) : List String :=
  ["    <style>",
   "    canvas \x7b",
   "        padding-left: 0;",
   "        padding-right: 0;",
   "        margin-left: auto;",
   "        margin-right: auto;",
   "        display: block;",
   "        width: " ++ toString settings.canvas.width ++ "px;",
   "    \x7d",
   "    </style>",
   "</head>",
   "<body>",
   "    <canvas width=\"" ++ toString settings.canvas.width ++ "\" height=\"" ++
      toString settings.canvas.height ++ "\" id=\"canvas\"></canvas>",
   "    <script>",
   "        const canvas = document.getElementById('canvas');",
   "        const ctx = canvas.getContext(\"2d\");",
   "        // crisp one-pixel lines",
   "        ctx.translate(0.5, 0.5);",
   "",
   "        var paper = '" ++ settings.turtle.paper.css ++ "';",
   "        var ink = '" ++ settings.turtle.ink.css ++ "';",
   "        var head = \x7bx: " ++ toString settings.turtle.homeX ++ ", y: " ++
      toString settings.turtle.homeY ++ ", angle: 0\x7d;",
   "        var pendown = false;",
   "",
   "        const clear = () => \x7b",
   "            ctx.fillStyle = paper;",
   "            ctx.fillRect(0, 0, canvas.width, canvas.height);",
   "        \x7d",
   "",
   "        const home = () => \x7b",
   "            head = \x7bx: " ++ toString settings.turtle.homeX ++ ", y: " ++
      toString settings.turtle.homeY ++ ", angle: 0\x7d;",
   "            pendown = false;",
   "            clear();",
   "        \x7d",
   "",
   "        const drawLine = (x1, y1, x2, y2) => \x7b",
   "            ctx.strokeStyle = ink;",
   "            ctx.beginPath();",
   "            ctx.moveTo(x1, y1);",
   "            ctx.lineTo(x2, y2);",
   "            ctx.stroke();",
   "        \x7d",
   "",
   "        const degToRad = (deg) => deg * (Math.PI / 180);",
   "",
   "        const calcOffset = (step) => \x7b",
   "            const dx = Math.round(step * Math.cos(degToRad(head.angle)));",
   "            const dy = Math.round(step * Math.sin(degToRad(head.angle)));",
   "            return \x7bdx: dx, dy: dy\x7d;",
   "        \x7d",
   "",
   "        const forward = (step) => \x7b",
   "            const \x7bdx, dy\x7d = calcOffset(step);",
   "            if (pendown) \x7b",
   "                drawLine(head.x, head.y, head.x + dx, head.y + dy);",
   "            \x7d",
   "            head.x += dx;",
   "            head.y += dy;",
   "        \x7d",
   "",
   "        const back = (step) => forward(-step);",
   "",
   "        const turn = (value) => \x7b",
   "            head.angle = (((head.angle + value) % 360) + 360) % 360;",
   "        \x7d",
   "",
   "        const left = (value) => turn(value);",
   "",
   "        const right = (value) => turn(-value);",
   "",
   "        clear();",
   ""]

def closing : List String :=
  ["    </script>",
   "</body>",
   "</html>"]

def shell (settings : Settings) (title : String) : List Char :=
  join opening ++ "    <title>".toList ++ title.toList ++ "</title>\n".toList ++
    join (definitions settings) ++ mark ++ '\n' :: join closing

def body (compiled : String) : List Char :=
  Text.indent margin (Text.dropFinalNewlines compiled.toList)

def render (settings : Settings) (title compiled : String) : String :=
  String.ofList (Text.replaceAll mark (body compiled) (shell settings title))

end TurtleGraphics.Page
