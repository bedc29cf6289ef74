/-!
# The page's style sheet
-/

namespace ChatGateway.Site

/-- The lines of the style sheet. -/
def styleLines : List String := [
  "* \x7b\n",
  "    box-sizing: border-box;\n",
  "    margin: 0;\n",
  "    padding: 0;\n",
  "\x7d\n",
  "\n",
  "body \x7b\n",
  "    font-family: sans-serif;\n",
  "    font-size: 100%;\n",
  "    background: #f1f1f1;\n",
  "\x7d\n",
  "\n",
  ".chatbox \x7b\n",
  "    position: absolute;\n",
  "    bottom: 30px;\n",
  "    right: 30px;\n",
  "\x7d\n",
  "\n",
  ".chatbox__support \x7b\n",
  "    display: flex;\n",
  "    flex-direction: column;\n",
  "    width: 300px;\n",
  "    height: 350px;\n",
  "    background: #eee;\n",
  "    opacity: 0;\n",
  "    z-index: -123456;\n",
  "    transition: all .5s ease-in-out;\n",
  "    box-shadow: 0 10px 15px rgba(0, 0, 0, 0.1);\n",
  "    border-top-left-radius: 20px;\n",
  "    border-top-right-radius: 20px;\n",
  "\x7d\n",
  "\n",
  ".chatbox--active \x7b\n",
  "    transform: translateY(-40px);\n",
  "    z-index: 123456;\n",
  "    opacity: 1;\n",
  "\x7d\n",
  "\n",
  ".chatbox__button \x7b\n",
  "    text-align: right;\n",
  "\x7d\n",
  "\n",
  ".chatbox__button button \x7b\n",
  "    padding: 10px 18px;\n",
  "    background: white;\n",
  "    border: none;\n",
  "    outline: none;\n",
  "    border-radius: 50px;\n",
  "    box-shadow: 0 10px 15px rgba(0, 0, 0, 0.1);\n",
  "    cursor: pointer;\n",
  "\x7d\n",
  "\n",
  ".chatbox__header \x7b\n",
  "    background: linear-gradient(93deg, #581B98 0%, #9C1DE7 100%);\n",
  "    padding: 15px 20px;\n",
  "    color: white;\n",
  "    border-top-left-radius: 20px;\n",
  "    border-top-right-radius: 20px;\n",
  "\x7d\n",
  "\n",
  ".chatbox__description--header \x7b\n",
  "    font-size: .9rem;\n",
  "\x7d\n",
  "\n",
  ".chatbox__messages \x7b\n",
  "    flex: 1;\n",
  "    display: flex;\n",
  "    flex-direction: column-reverse;\n",
  "    overflow-y: auto;\n",
  "    padding: 0 20px;\n",
  "    margin-top: auto;\n",
  "\x7d\n",
  "\n",
  ".messages__item \x7b\n",
  "    margin-top: 10px;\n",
  "    padding: 8px 12px;\n",
  "    max-width: 70%;\n",
  "    background: #E0E0E0;\n",
  "    border-radius: 20px;\n",
  "\x7d\n",
  "\n",
  ".messages__item--operator \x7b\n",
  "    margin-left: auto;\n",
  "    background: #581B98;\n",
  "    color: white;\n",
  "    border-bottom-left-radius: 20px;\n",
  "    border-bottom-right-radius: 0;\n",
  "\x7d\n",
  "\n",
  ".messages__item--visitor \x7b\n",
  "    margin-right: auto;\n",
  "    border-bottom-right-radius: 20px;\n",
  "    border-bottom-left-radius: 0;\n",
  "\x7d\n",
  "\n",
  ".chatbox__footer \x7b\n",
  "    display: flex;\n",
  "    align-items: center;\n",
  "    justify-content: space-between;\n",
  "    padding: 20px;\n",
  "    background: linear-gradient(268deg, #581B98 0%, #9C1DE7 100%);\n",
  "    border-bottom-left-radius: 10px;\n",
  "    border-bottom-right-radius: 10px;\n",
  "\x7d\n",
  "\n",
  ".chatbox__footer input \x7b\n",
  "    width: 80%;\n",
  "    border: none;\n",
  "    padding: 10px;\n",
  "    border-radius: 30px;\n",
  "\x7d\n",
  "\n",
  ".chatbox__send--footer \x7b\n",
  "    color: white;\n",
  "    background: transparent;\n",
  "    border: none;\n",
  "    cursor: pointer;\n",
  "\x7d\n"]

/-- The style sheet that the page loads. -/
def style : String := String.join styleLines

end ChatGateway.Site
