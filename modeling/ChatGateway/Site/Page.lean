import ChatGateway.Text.Bytes

/-!
# The chat page

The page that a browser shows: a box with a heading, the messages so far, and a field to
write the next one. Its style and its script are assets of their own.
-/

namespace ChatGateway.Site

/-- A character inside the text of a page. -/
def markupChar (c : Char) : String :=
  if c = '<' then "&#60;"
  else if c = '>' then "&#62;"
  else if c = '&' then "&#38;"
  else if c = '"' then "&#34;"
  else if c = '\x27' then "&#39;"
  else String.singleton c

/-- A text inside a page. -/
def markup (text : String) : String := String.join (text.toList.map markupChar)

/-- The lines of the page under a title, which is already part of a page. -/
def pageLines (title : String) : List String := [
  "<!DOCTYPE html>\n",
  "<html lang=\"en\">\n",
  "<head>\n",
  "    <meta charset=\"UTF-8\">\n",
  "    <meta name=\"viewport\" content=\"width=device-width, initial-scale=1.0\">\n",
  "    <title>" ++ title ++ "</title>\n",
  "    <link rel=\"stylesheet\" href=\"/static/style.css\">\n",
  "</head>\n",
  "<body>\n",
  "<div class=\"container\">\n",
  "    <div class=\"chatbox\">\n",
  "        <div class=\"chatbox__support\">\n",
  "            <div class=\"chatbox__header\">\n",
  "                <div class=\"chatbox__content--header\">\n",
  "                    <h4 class=\"chatbox__heading--header\">" ++ title ++ "</h4>\n",
  "                    <p class=\"chatbox__description--header\">Hi. Ask me anything.</p>\n",
  "                </div>\n",
  "            </div>\n",
  "            <div class=\"chatbox__messages\" aria-live=\"polite\"></div>\n",
  "            <div class=\"chatbox__footer\">\n",
  "                <input type=\"text\" placeholder=\"Write a message...\" aria-label=\"Message\">\n",
  "                <button class=\"chatbox__send--footer send__button\">Send</button>\n",
  "            </div>\n",
  "        </div>\n",
  "        <div class=\"chatbox__button\">\n",
  "            <button aria-label=\"Open chat\">Chat</button>\n",
  "        </div>\n",
  "    </div>\n",
  "</div>\n",
  "<script src=\"/static/app.js\"></script>\n",
  "</body>\n",
  "</html>"]

/-- The page under a title. -/
def page (title : String) : String := String.join (pageLines (markup title))

/-- The title of the chat page. -/
def title : String := "Chatbot"

end ChatGateway.Site
